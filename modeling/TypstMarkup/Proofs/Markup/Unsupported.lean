import TypstMarkup.Proofs.Markup.Indentation
import TypstMarkup.Proofs.Markup.Failure

/-!
Unsupported values. A tree of containers under settings of the right kinds fails exactly if one of
its leaves is unsupported. The first one in the order of writing is named, and what was written
before it is the beginning of what the tree is written as with other values in the place of its
unsupported leaves.
-/
namespace TypstMarkup

/-! ### Emissions -/

namespace Emission

variable {a a' b b' : Emission}

theorem fault_eq_none (never : a.FailsOnly fun _ => False) : a.fault = none := by
  cases failed : a.fault with
  | none => rfl
  | some f => exact absurd failed (never f)

theorem fault_surround (left : List Char) (body : Emission) :
    (surround left body).fault = body.fault := by
  rw [surround, enclose, text_append_fault, fault_append]
  exact Option.or_none

theorem fault_join (delimiter : List Char) (parts : List Emission) :
    (join delimiter parts).fault = parts.findSome? fault := by
  induction parts with
  | nil => rfl
  | cons first rest ih =>
    cases rest with
    | nil =>
      rw [join_singleton, List.findSome?_cons]
      cases first.fault <;> rfl
    | cons second rest =>
      rw [join_cons_cons, fault_append, text_append_fault, ih, List.findSome?_cons (a := first)]
      cases first.fault <;> rfl

/-- One emission is another one, or it fails and the other one begins with what it wrote. -/
def Begins (a b : Emission) : Prop :=
  a = b ∨ a.fault.isSome ∧ a.written <+: b.written

theorem Begins.written (begins : a.Begins b) : a.written <+: b.written := by
  rcases begins with rfl | ⟨-, before⟩
  · exact List.prefix_rfl
  · exact before

theorem begins_fail (f : Fault) (b : Emission) : (fail f).Begins b :=
  .inr ⟨rfl, List.nil_prefix⟩

theorem Begins.append (first : a.Begins a') (second : b.Begins b') :
    (a ++ b).Begins (a' ++ b') := by
  have longer (s : List Char) (e : Emission) (t : List Char) (before : t <+: s)
      (fault : Option Fault) : t <+: ((⟨s, fault⟩ : Emission) ++ e).written := by
    cases fault with
    | some f => exact before
    | none => exact before.trans (List.prefix_append s e.written)
  obtain ⟨s, fault⟩ := a
  cases fault with
  | some f => exact .inr ⟨rfl, longer _ _ _ first.written _⟩
  | none =>
    rcases first with rfl | ⟨failed, -⟩
    · rcases second with rfl | ⟨failed, before⟩
      · exact .inl rfl
      · exact .inr ⟨failed, (List.prefix_append_right_inj s).2 before⟩
    · cases failed

theorem begins_refl (a : Emission) : a.Begins a := .inl rfl

theorem begins_attempt {α : Type} {result : Except Fault α} {next next' : α → Emission}
    (each : ∀ found, result = .ok found → (next found).Begins (next' found)) :
    (attempt result next).Begins (attempt result next') := by
  cases result with
  | ok found => exact each found rfl
  | error f => exact begins_refl _

theorem Begins.surround (body : a.Begins b) (left : List Char) :
    (surround left a).Begins (surround left b) :=
  (begins_refl _).append (body.append (begins_refl _))

theorem begins_join {α : Type} {delimiter : List Char} {items : List α} {f g : α → Emission}
    (each : ∀ x ∈ items, (f x).Begins (g x)) :
    (join delimiter (items.map f)).Begins (join delimiter (items.map g)) := by
  induction items with
  | nil => exact begins_refl _
  | cons first rest ih =>
    have alone := each first List.mem_cons_self
    have later := ih fun x member => each x (List.mem_cons_of_mem _ member)
    cases rest with
    | nil => exact alone
    | cons second rest => exact alone.append ((begins_refl _).append later)

end Emission

namespace Markup

open Emission

/-! ### Scalars -/

/-- What a rule is made for. -/
inductive Holds : BuiltinRule → Value → Prop
  | null : Holds .null .null
  | bool (b : Bool) : Holds .bool (.bool b)
  | int (n : Int) : Holds .integer (.int n)
  | flags (flags : PatternFlags) : Holds .integer (.flags flags)
  | float (x : Binary64) : Holds .float (.float x)
  | complex (re im : Binary64) : Holds .complex (.complex re im)
  | decimal (d : Decimal) : Holds .decimal (.decimal d)
  | fraction (q : Rat) : Holds .fraction (.fraction q)
  | char (c : Char) : Holds .char (.char c)
  | str (text : String) : Holds .string (.str text)
  | verbatim (text : String) : Holds .verbatim (.verbatim text)
  | markup (text : String) : Holds .markup (.markup text)
  | raw (text language : String) : Holds .raw (.raw text language)
  | pattern (p : Pattern) : Holds .pattern (.pattern p)
  | range (p : Progression) : Holds .range (.range p)
  | list (items : List Value) : Holds .vector (.list items)
  | tuple (items : List Value) : Holds .vector (.tuple items)
  | matrix (rows : List (List Value)) : Holds .matrix (.matrix rows)

/-- What a rule is made for is of a kind that the rule is found for. -/
theorem Holds.resolve {r : Registry} (plain : r.IsBuiltin) {rule : BuiltinRule} {v : Value}
    (holds : Holds rule v) : r.resolve v.kind = some (.builtin rule) := by
  have home : ∀ home name, v.kind ≠ .declared home name := by cases holds <;> nofun
  rw [plain.resolve_eq home]
  cases holds <;> rfl

theorem overlong_of_core_decimal {v : Value} {d : Decimal} (same : v.core = .decimal d) :
    v.overlong = false := by
  cases v with
  | decimal d => rfl
  | object kind core payload =>
    cases core with
    | none => cases same
    | some core =>
      have content : core = .decimal d := same
      rw [content]
      rfl
  | _ => cases same

theorem Holds.not_unfit {v : Value} {f : Fault} {rule : BuiltinRule} (holds : Holds rule v.core) :
    ¬Unfit v f rule := by
  intro unfit
  generalize content : v.core = held at holds
  cases unfit with
  | notInteger failed =>
    rw [Value.toInteger?, content] at failed
    cases holds <;> cases failed
  | notFloating failed =>
    rw [Value.toFloating?, content] at failed
    cases holds
    cases failed
  | unshown failed =>
    cases holds
    rw [Value.plainText?, overlong_of_core_decimal content] at failed
    cases failed
  | noRatio absent failed =>
    rw [ratio?, content] at absent
    cases holds
    cases absent
  | noParts failed =>
    rw [complexParts, content] at failed
    cases holds
    cases failed
  | notReplaced failed | notQuoted failed =>
    rw [textOf, Value.text?, content] at failed
    cases holds
    cases failed
  | notPlain failed | noSource failed =>
    rw [plainOf, Value.text?, content] at failed
    cases holds
    cases failed
  | noPattern absent failed =>
    cases holds with
    | pattern p => exact absurd content (absent p)
  | noRange absent failed =>
    cases holds with
    | range p => exact absurd content (absent p)
  | noText absent failed =>
    cases holds with
    | verbatim text => exact absurd content (absent text "").1
  | noLanguage absent failed =>
    cases holds with
    | raw text language => exact absurd content (absent text language)
  | noItems failed =>
    rw [Value.items?, content] at failed
    cases holds <;> cases failed
  | noRows failed =>
    rw [rowsOf, content] at failed
    cases holds
    cases failed
  | noRow found failed =>
    rw [rowsOf, content] at found
    cases holds
    cases found
    obtain ⟨row, -, made⟩ := List.mem_map.1 failed
    cases made

/-! ### Trees -/

/-- The kind that is named when a value cannot be written whatever the settings are. -/
def refusal? (r : Registry) (v : Value) : Option Kind :=
  match r.resolve v.kind with
  | some (.builtin .pattern) =>
    match v.core with
    | .pattern (.bytes _ _) => some .bytes
    | _ => none
  | some _ => none
  | none =>
    match v.core with
    | .array _ dimensions _ true =>
      if dimensions.same (.int 1) || dimensions.same (.int 2) then none else some v.kind
    | _ => some v.kind

mutual

/-- The leaves of a tree of containers, in the order of writing. -/
def leaves : Value → List Value
  | .list items | .tuple items => leavesAll items
  | .matrix rows => leavesRows rows
  | v => [v]

def leavesAll : List Value → List Value
  | [] => []
  | x :: rest => leaves x ++ leavesAll rest

def leavesRows : List (List Value) → List Value
  | [] => []
  | row :: rest => leavesAll row ++ leavesRows rest

end

/-- A value that is no container, that the rule of its kind is made for and that stays within the
limits of numbers. -/
structure Scalar (r : Registry) (rule : BuiltinRule) (v : Value) : Prop where
  found : r.resolve v.kind = some (.builtin rule)
  holds : Holds rule v.core
  single : rule ∉ [.vector, .matrix]
  printable : ∀ n ∈ numerals rule v, overlong n = false
  short : ∀ p, v.core = .range p → p.length < wordLimit

/-- Trees of lists, tuples and matrices, nested at most so deep, over scalars and unsupported
values. -/
inductive Mixed (r : Registry) : Nat → Value → Prop
  | unsupported (n : Nat) {v : Value} {kind : Kind} (refused : refusal? r v = some kind) :
    Mixed r n v
  | scalar (n : Nat) {v : Value} {rule : BuiltinRule} (scalar : Scalar r rule v)
    (supported : refusal? r v = none) : Mixed r n v
  | list {n : Nat} {items : List Value} (each : ∀ x ∈ items, Mixed r n x) :
    Mixed r (n + 1) (.list items)
  | tuple {n : Nat} {items : List Value} (each : ∀ x ∈ items, Mixed r n x) :
    Mixed r (n + 1) (.tuple items)
  | matrix {n : Nat} {rows : List (List Value)} (each : ∀ row ∈ rows, ∀ x ∈ row, Mixed r n x) :
    Mixed r (n + 1) (.matrix rows)

/-- A tree and the same tree with any values in the place of unsupported leaves. The elements of a
container are paired with what stands in their places. -/
inductive Replaced (r : Registry) : Value → Value → Prop
  | same (v : Value) : Replaced r v v
  | leaf {v : Value} {kind : Kind} (refused : refusal? r v = some kind) (w : Value) : Replaced r v w
  | list (pairs : List (Value × Value)) (each : ∀ p ∈ pairs, Replaced r p.1 p.2) :
    Replaced r (.list (pairs.map Prod.fst)) (.list (pairs.map Prod.snd))
  | tuple (pairs : List (Value × Value)) (each : ∀ p ∈ pairs, Replaced r p.1 p.2) :
    Replaced r (.tuple (pairs.map Prod.fst)) (.tuple (pairs.map Prod.snd))
  | matrix (rows : List (List (Value × Value)))
    (each : ∀ row ∈ rows, ∀ p ∈ row, Replaced r p.1 p.2) :
    Replaced r (.matrix (rows.map (List.map Prod.fst))) (.matrix (rows.map (List.map Prod.snd)))

/-- Settings of the right kinds, with room for the indentation of containers that are nested so
deep. The settings of raw elements may be absent. -/
structure WellTyped (c : Context) (n : Nat) : Prop where
  mode : ∃ m, c.mode = .ok m
  inline : ∃ b, c.inline = .ok b
  room : ∃ unit depth spaces, c.indent = .ok unit ∧ c.depth = .ok depth ∧
    repeated unit (depth + n : Nat) = .ok spaces
  parameters : ∀ key ∈ vectorParameters ++ matrixParameters, ∃ value, c.parameter key = .ok value
  fence : c.get? "backticks" = none ∨
    ∃ count fence, backticks c = .ok count ∧ repeated ['\x60'] count = .ok fence
  block : c.get? "block" = none ∨ ∃ b, isBlock c = .ok b

/-! ### Leaves -/

section

variable {r : Registry} {v : Value}

theorem refusal?_cases {kind : Kind} (refused : refusal? r v = some kind) :
    (r.resolve v.kind = some (.builtin .pattern) ∧
        ∃ source flags, v.core = .pattern (.bytes source flags) ∧ kind = .bytes) ∨
      (r.resolve v.kind = none ∧
        (∀ kind dimensions items, v.core = .array kind dimensions items true →
          ¬dimensions.same (.int 1) ∧ ¬dimensions.same (.int 2)) ∧ kind = v.kind) := by
  unfold refusal? at refused
  split at refused
  · rename_i found
    split at refused
    · rename_i source flags same
      cases refused
      exact .inl ⟨found, source, flags, same, rfl⟩
    · cases refused
  · cases refused
  · rename_i absent
    split at refused
    · rename_i kind dimensions items array
      split at refused
      · cases refused
      · rename_i other
        cases refused
        refine .inr ⟨absent, ?_, rfl⟩
        intro _ _ _ same
        rw [array] at same
        cases same
        simpa using other
    · rename_i noArray
      cases refused
      exact .inr ⟨absent, fun _ _ _ array => absurd array (noArray _ _ _), rfl⟩

end

section

variable {c : Context}

theorem exists_pad {m : Mode} {b : Bool} (mode : c.mode = .ok m) (inline : c.inline = .ok b) :
    ∃ pad, mathPad c = .ok pad := by
  rw [mathPad, mode, inline]
  cases m <;> exact ⟨_, rfl⟩

def rawDefaults : Context :=
  OrderedMap.ofList [("backticks", .int 3), ("block", .bool false)]

theorem exists_fence {n : Nat} (typed : WellTyped c n) : ∃ count fence,
    backticks (c.fill rawDefaults) = .ok count ∧ repeated ['\x60'] count = .ok fence := by
  rcases typed.fence with absent | ⟨count, fence, read, fits⟩
  · refine ⟨3, ['\x60', '\x60', '\x60'], ?_, by rfl⟩
    rw [backticks, Context.found, OrderedMap.get?_fill, absent]
    rfl
  · refine ⟨count, fence, ?_, fits⟩
    have kept : Context.found (c.fill rawDefaults) "backticks" = c.found "backticks" := by
      apply Context.found_congr (get?_fill_of_found _ _)
      intro null
      rw [backticks, null] at read
      cases read
    rw [backticks, kept]
    exact read

theorem exists_isBlock {n : Nat} (typed : WellTyped c n) :
    ∃ b, isBlock (c.fill rawDefaults) = .ok b := by
  rcases typed.block with absent | ⟨b, read⟩
  · refine ⟨false, ?_⟩
    rw [isBlock, OrderedMap.get?_fill, absent]
    rfl
  · refine ⟨b, ?_⟩
    unfold isBlock at read
    split at read
    · rename_i b' present
      rw [isBlock, OrderedMap.get?_fill, present, Option.some_or]
      exact read
    · cases read

end

section

variable {r : Registry} (plain : r.IsBuiltin)

include plain

theorem kindDefaults_of_raw {v : Value} (found : r.resolve v.kind = some (.builtin .raw)) :
    r.kindDefaults v = rawDefaults := by
  obtain ⟨k, listed, home⟩ := Table.mem_of_firstOn found
  rw [plain.rules] at home
  have onlyRule : ∀ entry ∈ Registry.builtinRules, entry.2 = .builtin .raw → entry.1 = .raw := by
    simp [Registry.builtinRules]
  have isRaw : k = .raw := onlyRule _ home rfl
  rw [Registry.kindDefaults, plain.defaults]
  cases first : Registry.builtinDefaults.firstOn (r.searchPath v.kind) with
  | none =>
    have absent := List.findSome?_eq_none_iff.1 first k listed
    rw [isRaw] at absent
    cases absent
  | some d =>
    obtain ⟨k, -, present⟩ := Table.mem_of_firstOn first
    cases List.mem_singleton.1 present
    rfl

theorem not_unread {c : Context} {n : Nat} (typed : WellTyped c n) {v : Value} {rule : BuiltinRule}
    (found : r.resolve v.kind = some (.builtin rule)) (f : Fault) :
    ¬Unread rule (settingsFor r v c) f := by
  obtain ⟨m, mode⟩ := typed.mode
  obtain ⟨b, inline⟩ := typed.inline
  obtain ⟨unit, depth, -, indent, deep, -⟩ := typed.room
  intro unread
  have moded : (settingsFor r v c).mode = .ok m := mode_fill _ mode
  have inlined : (settingsFor r v c).inline = .ok b := inline_fill _ inline
  cases unread with
  | mode failed =>
    rw [moded] at failed
    cases failed
  | pad failed =>
    obtain ⟨pad, read⟩ := exists_pad moded inlined
    rw [read] at failed
    cases failed
  | indent failed =>
    rw [settingsFor, indent_fill _ indent] at failed
    cases failed
  | depth failed =>
    rw [settingsFor, depth_fill _ deep] at failed
    cases failed
  | backticks raw failed =>
    subst raw
    obtain ⟨count, fence, read, -⟩ := exists_fence typed
    rw [settingsFor, kindDefaults_of_raw plain found, read] at failed
    cases failed
  | block raw failed =>
    subst raw
    obtain ⟨b, read⟩ := exists_isBlock typed
    rw [settingsFor, kindDefaults_of_raw plain found, read] at failed
    cases failed

end

section

variable {r : Registry} (plain : r.IsBuiltin) {v : Value} {c : Context} {n : Nat}

include plain

theorem leaves_of_single (single : ∀ rule ∈ [BuiltinRule.vector, .matrix],
    r.resolve v.kind ≠ some (.builtin rule)) : leaves v = [v] := by
  cases v with
  | list items => exact absurd ((Holds.list items).resolve plain) (single .vector (by decide))
  | tuple items => exact absurd ((Holds.tuple items).resolve plain) (single .vector (by decide))
  | matrix rows => exact absurd ((Holds.matrix rows).resolve plain) (single .matrix (by decide))
  | _ => rfl

theorem leaves_of_refusal {kind : Kind} (refused : refusal? r v = some kind) : leaves v = [v] := by
  apply leaves_of_single plain
  intro rule container found
  rcases refusal?_cases refused with ⟨pattern, -⟩ | ⟨absent, -⟩
  · rw [pattern] at found
    cases found
    exact absurd container (by decide)
  · rw [absent] at found
    cases found

theorem leaves_of_scalar {rule : BuiltinRule} (scalar : Scalar r rule v) : leaves v = [v] := by
  apply leaves_of_single plain
  intro other container found
  rw [scalar.found] at found
  cases found
  exact scalar.single container

/-- An unsupported value fails before anything is written, whatever the settings are. -/
theorem write_of_refusal {kind : Kind} (refused : refusal? r v = some kind) (c : Context) :
    write r v c = fail (.unsupportedKind kind) := by
  rw [write_eq plain]
  rcases refusal?_cases refused with ⟨found, source, flags, same, rfl⟩ | ⟨absent, other, rfl⟩
  · rw [asRegistered_of_resolve found, attempt_ok, found]
    dsimp only
    rw [BuiltinRule.apply, writePattern, same]
  · rw [asRegistered_of_absent absent other]
    rfl

theorem not_limit {rule : BuiltinRule} (scalar : Scalar r rule v) (typed : WellTyped c n)
    (f : Fault) : ¬Limit v (settingsFor r v c) f rule := by
  intro limit
  cases limit with
  | digits written failed =>
    rw [integerText, scalar.printable _ written] at failed
    cases failed
  | length same long _ =>
    have short := scalar.short _ same
    omega
  | fence read failed =>
    obtain ⟨count, fence, read', fits⟩ := exists_fence typed
    rw [settingsFor, kindDefaults_of_raw plain scalar.found, read'] at read
    cases read
    rw [fits] at failed
    cases failed
  | indentation container _ _ _ _ => exact scalar.single container

theorem fault_scalar {rule : BuiltinRule} (scalar : Scalar r rule v)
    (supported : refusal? r v = none) (typed : WellTyped c n) : (write r v c).fault = none := by
  apply fault_eq_none
  rw [write_eq plain, asRegistered_of_resolve scalar.found, attempt_ok, scalar.found]
  dsimp only
  apply Guarded.failsOnly
  · apply rule.apply_guarded
    · intro f obstacle
      cases obstacle with
      | unfit unfit => exact scalar.holds.not_unfit unfit
      | limit limit => exact not_limit plain scalar typed f limit
      | bytes pattern same failed =>
        subst pattern
        rw [refusal?, scalar.found] at supported
        dsimp only at supported
        rw [same] at supported
        cases supported
      | parameter container known failed => exact scalar.single container
    · intro m written d
      refine failsOnly_write_int plain fun f failed => ?_
      rw [integerText, scalar.printable _ written] at failed
      cases failed
    · intro x member
      have single := scalar.single
      cases rule with
      | vector => exact absurd (by decide) single
      | matrix => exact absurd (by decide) single
      | _ => cases member
  · exact fun f unread => not_unread plain typed scalar.found f unread

end

/-! ### Containers -/

section

variable {c : Context} {n depth : Nat} {w : Writer} {v v' : Value}

theorem WellTyped.inner (typed : WellTyped c (n + 1)) (deep : c.depth = .ok depth) :
    WellTyped (inner c depth) n := by
  have same (key : String) (noMode : key ≠ "mode") (noDepth : key ≠ "depth") :=
    get?_inner_of_ne c depth noMode noDepth
  constructor
  · exact ⟨.math, mode_inner c depth⟩
  · obtain ⟨b, inline⟩ := typed.inline
    exact ⟨b, (Context.inline_congr (same _ (by decide) (by decide))).trans inline⟩
  · obtain ⟨unit, depth', spaces, indent, deep', enough⟩ := typed.room
    rw [deep] at deep'
    cases deep'
    refine ⟨unit, depth + 1, spaces, ?_, Context.depth_withDepth _ _, ?_⟩
    · rw [Context.indent_congr (same _ (by decide) (by decide)), indent]
    · rw [← enough, Nat.add_right_comm, Nat.add_assoc]
  · intro key known
    have setting : ∀ key ∈ vectorParameters ++ matrixParameters, key ≠ "mode" ∧ key ≠ "depth" := by
      decide
    rw [Context.parameter_congr (same key (setting key known).1 (setting key known).2)]
    exact typed.parameters key known
  · have found := Context.found_congr (same "backticks" (by decide) (by decide))
    rw [same "backticks" (by decide) (by decide), backticks, found, ← backticks]
    exact typed.fence
  · have found := Context.found_congr (same "block" (by decide) (by decide))
    rw [same "block" (by decide) (by decide), isBlock, found, same "block" (by decide) (by decide),
      ← isBlock]
    exact typed.block

theorem exists_opening (typed : WellTyped c n) (function : List Char) {keys : List String}
    (known : ∀ key ∈ keys, key ∈ vectorParameters ++ matrixParameters) :
    ∃ head, parameterHead c function keys = text head := by
  have never : (parameterHead c function keys).FailsOnly fun _ => False := by
    apply failsOnly_parameterHead
    intro key member f failed
    obtain ⟨value, read⟩ := typed.parameters key (known key member)
    rw [read] at failed
    cases failed
  refine ⟨_, eq_text_of_isNone ?_⟩
  rw [fault_eq_none never]
  rfl

theorem fault_framed (typed : WellTyped c n) (head unit : List Char) (depth : Nat)
    (rows : List (List Emission)) :
    (framed c head unit depth rows).fault =
      rows.findSome? fun cells => cells.findSome? Emission.fault := by
  obtain ⟨m, mode⟩ := typed.mode
  obtain ⟨b, inline⟩ := typed.inline
  obtain ⟨pad, padded⟩ := exists_pad mode inline
  rw [framed, padded, attempt_ok, fault_surround, text_append_fault, fault_append, fault_join,
    List.findSome?_map]
  simp only [Function.comp_def, text_append_fault, fault_join]
  exact Option.or_none

theorem fault_writeVector (typed : WellTyped c (n + 1)) (deep : c.depth = .ok depth)
    {items : List Value} (found : v.items? = .ok items) :
    (writeVector w v c).fault = items.findSome? fun x => (w x (inner c depth)).fault := by
  obtain ⟨unit, depth', spaces, indent, deep', enough⟩ := typed.room
  rw [deep] at deep'
  cases deep'
  obtain ⟨head, opening⟩ := exists_opening typed "vec".toList fun key member =>
    List.mem_append_left matrixParameters member
  rw [writeVector_eq_framed found deep indent opening (repeated_le (by omega) enough),
    fault_framed typed, List.findSome?_singleton, List.findSome?_map]
  rfl

theorem fault_writeMatrix (typed : WellTyped c (n + 1)) (deep : c.depth = .ok depth)
    (rows : List (List Value)) :
    (writeMatrix w (.matrix rows) c).fault =
      rows.findSome? fun row => row.findSome? fun x => (w x (inner c depth)).fault := by
  obtain ⟨unit, depth', spaces, indent, deep', enough⟩ := typed.room
  rw [deep] at deep'
  cases deep'
  obtain ⟨head, opening⟩ := exists_opening typed "mat".toList fun key member =>
    List.mem_append_right vectorParameters member
  rw [writeMatrix_eq_framed deep indent opening (repeated_le (by omega) enough),
    fault_framed typed, List.findSome?_map]
  simp only [Function.comp_def, List.findSome?_map]

theorem begins_writeElements (pairs : List (Value × Value))
    (each : ∀ p ∈ pairs, ∀ d, (w p.1 d).Begins (w p.2 d)) :
    (writeElements w c (pairs.map Prod.fst)).Begins (writeElements w c (pairs.map Prod.snd)) := by
  rw [writeElements, writeElements, List.map_map, List.map_map]
  exact begins_join fun p member => each p member c

theorem begins_writeVector (pairs : List (Value × Value))
    (left : v.items? = .ok (pairs.map Prod.fst)) (right : v'.items? = .ok (pairs.map Prod.snd))
    (each : ∀ p ∈ pairs, ∀ d, (w p.1 d).Begins (w p.2 d)) :
    (writeVector w v c).Begins (writeVector w v' c) := by
  unfold writeVector
  refine begins_attempt fun depth _ => begins_attempt fun unit _ => begins_attempt fun pad _ => ?_
  refine Begins.surround ((begins_refl _).append (begins_attempt fun spaces _ => ?_)) pad
  refine (begins_refl _).append (Begins.append ?_ (begins_refl _))
  rw [left, right, attempt_ok, attempt_ok]
  exact begins_writeElements pairs each

theorem begins_writeRow (spaces? : Except Fault (List Char)) (row : List (Value × Value))
    (each : ∀ p ∈ row, ∀ d, (w p.1 d).Begins (w p.2 d)) :
    (writeRow w c spaces? (.ok (row.map Prod.fst))).Begins
      (writeRow w c spaces? (.ok (row.map Prod.snd))) := by
  unfold writeRow
  refine begins_attempt fun spaces _ => (begins_refl _).append ?_
  rw [attempt_ok, attempt_ok]
  exact begins_writeElements row each

theorem begins_writeMatrix (rows : List (List (Value × Value)))
    (each : ∀ row ∈ rows, ∀ p ∈ row, ∀ d, (w p.1 d).Begins (w p.2 d)) :
    (writeMatrix w (.matrix (rows.map (List.map Prod.fst))) c).Begins
      (writeMatrix w (.matrix (rows.map (List.map Prod.snd))) c) := by
  have found (rows : List (List Value)) : rowsOf (.matrix rows) = .ok (rows.map .ok) := rfl
  unfold writeMatrix
  rw [found, found]
  refine begins_attempt fun depth _ => begins_attempt fun unit _ => begins_attempt fun pad _ => ?_
  refine Begins.surround ((begins_refl _).append (Begins.append ?_ (begins_refl _))) pad
  rw [attempt_ok, attempt_ok, List.map_map, List.map_map, List.map_map, List.map_map]
  apply begins_join
  intro row listed
  rw [Function.comp_apply, Function.comp_apply, Function.comp_apply, Function.comp_apply]
  exact begins_writeRow _ row (each row listed)

end

/-! ### Trees -/

section

variable {r : Registry} {v : Value} {n : Nat}

/-- The failure that the first unsupported value among some values is reported with. -/
def firstRefusal (r : Registry) (values : List Value) : Option Fault :=
  (values.findSome? (refusal? r)).map .unsupportedKind

theorem firstRefusal_append (values more : List Value) :
    firstRefusal r (values ++ more) = (firstRefusal r values).or (firstRefusal r more) := by
  rw [firstRefusal, List.findSome?_append]
  cases found : values.findSome? (refusal? r) <;> simp [firstRefusal, found]

theorem findSome?_leavesAll {items : List Value} {faultOf : Value → Option Fault}
    (each : ∀ x ∈ items, faultOf x = firstRefusal r (leaves x)) :
    items.findSome? faultOf = firstRefusal r (leavesAll items) := by
  induction items with
  | nil => rfl
  | cons x rest ih =>
    have later := ih fun y member => each y (List.mem_cons_of_mem _ member)
    rw [List.findSome?_cons, each x List.mem_cons_self, later, leavesAll, firstRefusal_append]
    cases firstRefusal r (leaves x) <;> rfl

theorem findSome?_leavesRows {rows : List (List Value)} {faultOf : Value → Option Fault}
    (each : ∀ row ∈ rows, ∀ x ∈ row, faultOf x = firstRefusal r (leaves x)) :
    (rows.findSome? fun row => row.findSome? faultOf) = firstRefusal r (leavesRows rows) := by
  induction rows with
  | nil => rfl
  | cons row rest ih =>
    have later := ih fun y member => each y (List.mem_cons_of_mem _ member)
    have first := findSome?_leavesAll (each row List.mem_cons_self)
    rw [List.findSome?_cons, first, later, leavesRows, firstRefusal_append]
    cases firstRefusal r (leavesAll row) <;> rfl

variable (plain : r.IsBuiltin)

include plain

theorem fault_mixed (mixed : Mixed r n v) {c : Context} (typed : WellTyped c n) :
    (write r v c).fault = firstRefusal r (leaves v) := by
  -- Elements are written a level deeper under settings that have room for one level less.
  induction mixed generalizing c with
  | unsupported n refused =>
    rw [write_of_refusal plain refused, leaves_of_refusal plain refused, firstRefusal,
      List.findSome?_singleton, refused]
    rfl
  | scalar n scalar supported =>
    rw [fault_scalar plain scalar supported typed, leaves_of_scalar plain scalar, firstRefusal,
      List.findSome?_singleton, supported]
    rfl
  | list each ih =>
    obtain ⟨-, depth, -, -, deep, -⟩ := typed.room
    rw [write_list plain, fault_writeVector typed deep rfl, leaves]
    exact findSome?_leavesAll fun x member => ih x member (typed.inner deep)
  | tuple each ih =>
    obtain ⟨-, depth, -, -, deep, -⟩ := typed.room
    rw [write_tuple plain, fault_writeVector typed deep rfl, leaves]
    exact findSome?_leavesAll fun x member => ih x member (typed.inner deep)
  | matrix each ih =>
    obtain ⟨-, depth, -, -, deep, -⟩ := typed.room
    rw [write_matrix plain, fault_writeMatrix typed deep, leaves]
    exact findSome?_leavesRows fun row listed x member => ih row listed x member (typed.inner deep)

/-- What is written before a failure at an unsupported leaf does not depend on this leaf or on
later unsupported ones. -/
theorem write_begins {w : Value} (replaced : Replaced r v w) (c : Context) :
    (write r v c).Begins (write r w c) := by
  induction replaced generalizing c with
  | same v => exact begins_refl _
  | leaf refused w =>
    rw [write_of_refusal plain refused]
    exact begins_fail _ _
  | list pairs each ih =>
    rw [write_list plain, write_list plain]
    exact begins_writeVector pairs rfl rfl ih
  | tuple pairs each ih =>
    rw [write_tuple plain, write_tuple plain]
    exact begins_writeVector pairs rfl rfl ih
  | matrix rows each ih =>
    rw [write_matrix plain, write_matrix plain]
    exact begins_writeMatrix rows ih

/-- A tree fails exactly if it has an unsupported leaf, and then names the kind of the first one in
the order of writing. What it has written by then is the beginning of what is written for the tree
with any values in the place of its unsupported leaves. -/
theorem unsupported_leaves_fail_in_order {c : Context} (mixed : Mixed r n v)
    (typed : WellTyped c n) :
    (∀ f, (write r v c).fault = some f ↔ ∃ before leaf after kind,
        leaves v = before ++ leaf :: after ∧ (∀ x ∈ before, refusal? r x = none) ∧
          refusal? r leaf = some kind ∧ f = .unsupportedKind kind) ∧
      ∀ w, Replaced r v w → (write r v c).written <+: (write r w c).written := by
  constructor
  · intro f
    rw [fault_mixed plain mixed typed, firstRefusal, Option.map_eq_some_iff]
    constructor
    · rintro ⟨kind, first, rfl⟩
      obtain ⟨before, leaf, after, split, refused, supported⟩ := List.findSome?_eq_some_iff.1 first
      exact ⟨before, leaf, after, kind, split, supported, refused, rfl⟩
    · rintro ⟨before, leaf, after, kind, split, supported, refused, rfl⟩
      have first := List.findSome?_eq_some_iff.2 ⟨before, leaf, after, split, refused, supported⟩
      exact ⟨kind, first, rfl⟩
  · intro w replaced
    exact (write_begins plain replaced c).written

end

/-- A tree with two unsupported leaves, the first one two levels deep. -/
def mixture : Value :=
  .list [.int 7, .tuple [.raw "x" "", .pattern (.bytes [0] {})], .set []]

def mended : Value :=
  .list [.int 7, .tuple [.raw "x" "", .bool true], .list []]

theorem mixed_mixture : Mixed .builtin 2 mixture := by
  have seven : Scalar .builtin .integer (.int 7) :=
    ⟨(Holds.int 7).resolve isBuiltin_builtin, .int 7, by decide, by decide +kernel, nofun⟩
  have raw : Scalar .builtin .raw (.raw "x" "") :=
    ⟨(Holds.raw "x" "").resolve isBuiltin_builtin, .raw "x" "", by decide, nofun, nofun⟩
  have inner : Mixed .builtin 1 (.tuple [.raw "x" "", .pattern (.bytes [0] {})]) := by
    apply Mixed.tuple
    rw [List.forall_mem_cons, List.forall_mem_singleton]
    exact ⟨.scalar 0 raw rfl, .unsupported 0 rfl⟩
  apply Mixed.list
  rw [List.forall_mem_cons, List.forall_mem_cons, List.forall_mem_singleton]
  exact ⟨.scalar 1 seven rfl, inner, .unsupported 1 rfl⟩

theorem replaced_mixture : Replaced .builtin mixture mended := by
  have inner : Replaced .builtin (.tuple [.raw "x" "", .pattern (.bytes [0] {})])
      (.tuple [.raw "x" "", .bool true]) := by
    apply Replaced.tuple [(.raw "x" "", .raw "x" ""), (.pattern (.bytes [0] {}), .bool true)]
    rw [List.forall_mem_cons, List.forall_mem_singleton]
    exact ⟨.same _, .leaf rfl _⟩
  apply Replaced.list [(.int 7, .int 7), (_, _), (.set [], .list [])]
  rw [List.forall_mem_cons, List.forall_mem_cons, List.forall_mem_singleton]
  exact ⟨.same _, inner, .leaf rfl _⟩

theorem wellTyped_default : WellTyped .default 2 where
  mode := ⟨.markup, rfl⟩
  inline := ⟨true, rfl⟩
  room := ⟨"    ".toList, 0, _, rfl, rfl, rfl⟩
  parameters := by
    intro key known
    have absent : ∀ key ∈ vectorParameters ++ matrixParameters,
        (Context.default.get? key).isNone := by decide
    rw [Context.parameter, Option.isNone_iff_eq_none.1 (absent key known)]
    exact ⟨[], rfl⟩
  fence := .inl rfl
  block := .inl rfl

theorem unsupported_leaves_fail_in_order_mixture :
    Registry.builtin.IsBuiltin ∧ Mixed .builtin 2 mixture ∧ WellTyped .default 2 ∧
      (write .builtin mixture .default).fault = some (.unsupportedKind .bytes) ∧
      Replaced .builtin mixture mended ∧
      (write .builtin mixture .default).written <+: (write .builtin mended .default).written := by
  obtain ⟨first, before⟩ :=
    unsupported_leaves_fail_in_order isBuiltin_builtin mixed_mixture wellTyped_default
  refine ⟨isBuiltin_builtin, mixed_mixture, wellTyped_default, ?_, replaced_mixture,
    before mended replaced_mixture⟩
  apply (first _).2
  refine ⟨[.int 7, .raw "x" ""], .pattern (.bytes [0] {}), [.set []], .bytes, rfl, ?_, rfl, rfl⟩
  rw [List.forall_mem_cons, List.forall_mem_singleton]
  exact ⟨rfl, rfl⟩

end Markup

end TypstMarkup
