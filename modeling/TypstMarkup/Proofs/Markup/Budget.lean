import TypstMarkup.Proofs.Markup.Alike
import TypstMarkup.Proofs.Success

/-!
Built-in rules and their budget. Every value that a built-in rule writes further is a leaf or lower
than the value at hand, so the budget never runs out, and writing can be described without it.
-/
namespace TypstMarkup

/-! ### Heights -/

namespace Value

theorem height_pos (v : Value) : 0 < height v := by
  cases v <;> simp [height]

theorem height_core_le (v : Value) : height v.core ≤ height v := by
  unfold core
  split
  · simp [height, heightOption]
    omega
  · exact Nat.le_refl _

theorem height_le_heightAll {x : Value} {items : List Value} (member : x ∈ items) :
    height x ≤ heightAll items := by
  induction items with
  | nil => cases member
  | cons first rest ih =>
    rw [heightAll]
    rcases List.mem_cons.1 member with rfl | later
    · exact Nat.le_max_left _ _
    · exact Nat.le_trans (ih later) (Nat.le_max_right _ _)

theorem heightAll_le_heightRows {row : List Value} {rows : List (List Value)}
    (member : row ∈ rows) : heightAll row ≤ heightRows rows := by
  induction rows with
  | nil => cases member
  | cons first rest ih =>
    rw [heightRows]
    rcases List.mem_cons.1 member with rfl | later
    · exact Nat.le_max_left _ _
    · exact Nat.le_trans (ih later) (Nat.le_max_right _ _)

theorem height_le_heightEntries {entry : Value × Value} {entries : List (Value × Value)}
    (member : entry ∈ entries) : height entry.1 ≤ heightEntries entries := by
  induction entries with
  | nil => cases member
  | cons first rest ih =>
    obtain ⟨key, v⟩ := first
    rw [heightEntries]
    rcases List.mem_cons.1 member with rfl | later
    · exact Nat.le_trans (Nat.le_max_left _ _) (Nat.le_max_left _ _)
    · exact Nat.le_trans (ih later) (Nat.le_max_right _ _)

/-- An item that is made when a value is iterated: nothing is written below it. -/
inductive IsLeaf : Value → Prop where
  | int (n : Int) : IsLeaf (.int n)
  | str (text : String) : IsLeaf (.str text)
  | mode (m : Mode) : IsLeaf (.mode m)

theorem IsLeaf.height {x : Value} (leaf : IsLeaf x) : height x = 1 := by
  cases leaf <;> rfl

theorem isLeaf_characters {x : Value} {text : String} (member : x ∈ characters text) :
    IsLeaf x := by
  obtain ⟨c, -, rfl⟩ := List.mem_map.1 member
  exact .str _

/-- Items are made by iteration or lower than what they are items of, except that a row of a matrix
may be as high as the matrix. -/
theorem height_item {v x : Value} {items : List Value} (found : v.items? = .ok items)
    (member : x ∈ items) :
    IsLeaf x ∨ (height x ≤ height v.core ∧
      ((∀ rows, v.core ≠ .matrix rows) → height x < height v.core)) := by
  unfold items? at found
  split at found
  case h_1 inner same | h_2 inner same | h_3 inner same =>
    cases found
    have lower := height_le_heightAll member
    rw [same]
    exact .inr ⟨by simp [height]; omega, fun _ => by simp [height]; omega⟩
  case h_4 entries same =>
    cases found
    obtain ⟨entry, listed, rfl⟩ := List.mem_map.1 member
    have lower := height_le_heightEntries listed
    rw [same]
    exact .inr ⟨by simp [height]; omega, fun _ => by simp [height]; omega⟩
  case h_5 rows same =>
    cases found
    obtain ⟨row, listed, rfl⟩ := List.mem_map.1 member
    have lower := heightAll_le_heightRows listed
    rw [same]
    exact .inr ⟨by simp [height]; omega, fun other => absurd rfl (other rows)⟩
  case h_6 progression same =>
    cases found
    obtain ⟨n, -, rfl⟩ := List.mem_map.1 member
    exact .inl (.int n)
  case h_7 text same | h_8 text same =>
    cases found
    exact .inl (isLeaf_characters member)
  case h_9 c same =>
    cases found
    cases List.mem_singleton.1 member
    exact .inl (.str _)
  case h_10 data same =>
    cases found
    obtain ⟨byte, -, rfl⟩ := List.mem_map.1 member
    exact .inl (.int _)
  case h_11 same =>
    cases found
    obtain ⟨m, -, rfl⟩ := List.mem_map.1 member
    exact .inl (.mode m)
  case h_12 => cases found

theorem isLeaf_item {v x : Value} {items : List Value} (leaf : IsLeaf v)
    (found : v.items? = .ok items) (member : x ∈ items) : IsLeaf x := by
  cases leaf with
  | int | mode => cases found
  | str text =>
    cases found
    exact isLeaf_characters member

theorem height_cell {v x : Value} {rows : List (Except Fault (List Value))} {row : List Value}
    (found : Markup.rowsOf v = .ok rows) (listed : .ok row ∈ rows) (member : x ∈ row) :
    IsLeaf x ∨ height x < height v := by
  have core := height_core_le v
  unfold Markup.rowsOf at found
  split at found
  · rename_i rows same
    cases found
    obtain ⟨row, inner, made⟩ := List.mem_map.1 listed
    cases made
    have lower := height_le_heightAll member
    have row := heightAll_le_heightRows inner
    rw [same, height] at core
    exact .inr (by omega)
  · rename_i other
    obtain ⟨items, iterated, rfl⟩ := map_eq_ok_iff.1 found
    obtain ⟨item, inner, made⟩ := List.mem_map.1 listed
    rcases height_item iterated inner with leaf | ⟨-, lower⟩
    · exact .inl (isLeaf_item leaf made member)
    rcases height_item made member with leaf | ⟨low, -⟩
    · exact .inl leaf
    · have below := lower other
      have item := height_core_le item
      exact .inr (by omega)

theorem exists_of_mem_mapM {α β : Type} {f : α → Except Fault β} {items : List α} {made : List β}
    {b : β} (found : items.mapM f = .ok made) (member : b ∈ made) : ∃ a ∈ items, f a = .ok b := by
  induction items generalizing made with
  | nil =>
    cases found
    cases member
  | cons a items ih =>
    rw [List.mapM_cons] at found
    obtain ⟨first, same, found⟩ := bind_eq_ok_iff.1 found
    obtain ⟨rest, later, found⟩ := bind_eq_ok_iff.1 found
    cases found
    rcases List.mem_cons.1 member with rfl | member
    · exact ⟨a, List.mem_cons_self, same⟩
    · obtain ⟨a', within, same⟩ := ih later member
      exact ⟨a', List.mem_cons_of_mem a within, same⟩

theorem heightAll_le {items : List Value} {bound : Nat} (all : ∀ x ∈ items, height x ≤ bound) :
    heightAll items ≤ bound := by
  induction items with
  | nil => exact Nat.zero_le _
  | cons first rest ih =>
    rw [heightAll]
    exact Nat.max_le.2 ⟨all first List.mem_cons_self, ih fun x member =>
      all x (List.mem_cons_of_mem first member)⟩

theorem heightRows_le {rows : List (List Value)} {bound : Nat}
    (all : ∀ row ∈ rows, heightAll row ≤ bound) : heightRows rows ≤ bound := by
  induction rows with
  | nil => exact Nat.zero_le _
  | cons first rest ih =>
    rw [heightRows]
    exact Nat.max_le.2 ⟨all first List.mem_cons_self, ih fun row member =>
      all row (List.mem_cons_of_mem first member)⟩

theorem height_item_le {v x : Value} {items : List Value} (found : v.items? = .ok items)
    (member : x ∈ items) : height x ≤ height v := by
  rcases height_item found member with leaf | ⟨low, -⟩
  · rw [leaf.height]
    exact height_pos v
  · exact Nat.le_trans low (height_core_le v)

theorem height_matrixRows {v : Value} {rows : List (List Value)}
    (found : v.matrixRows? = .ok rows) : height (.matrix rows) ≤ height v + 1 := by
  obtain ⟨items, iterated, found⟩ := bind_eq_ok_iff.1 found
  obtain ⟨made, mapped, found⟩ := bind_eq_ok_iff.1 found
  have same : made = rows := by
    dsimp only at found
    split at found <;> cases found
    rfl
  subst same
  rw [height]
  refine Nat.succ_le_succ (heightRows_le fun row listed => heightAll_le fun x member => ?_)
  obtain ⟨item, inner, iterated'⟩ := exists_of_mem_mapM mapped listed
  exact Nat.le_trans (height_item_le (items?_of_rowItems? iterated') member)
    (height_item_le iterated inner)

end Value

namespace Markup

open Value (height IsLeaf height_pos)

theorem height_asRegistered {r : Registry} {v found : Value}
    (registered : asRegistered r v = .ok found) : height found ≤ height v := by
  have core := Value.height_core_le v
  unfold asRegistered at registered
  split at registered
  · cases registered
    exact Nat.le_refl _
  split at registered
  · rename_i kind dimensions items same
    rw [same, height] at core
    split at registered
    · cases registered
      omega
    split at registered
    · obtain ⟨rows, made, rfl⟩ := map_eq_ok_iff.1 registered
      have lower := Value.height_matrixRows made
      omega
    · cases registered
  · cases registered

/-! ### What a value stands for -/

section

variable {r : Registry} {v shown : Value}

theorem asRegistered_of_isSome (registered : (r.resolve v.kind).isSome) :
    asRegistered r v = .ok v := by
  rw [asRegistered, if_pos registered]

theorem asRegistered_of_resolve {rule : Rule} (found : r.resolve v.kind = some rule) :
    asRegistered r v = .ok v :=
  asRegistered_of_isSome (by rw [found, Option.isSome_some])

theorem asRegistered_of_absent (absent : r.resolve v.kind = none)
    (other : ∀ kind dimensions items, v.core = .array kind dimensions items true →
      ¬dimensions.same (.int 1) ∧ ¬dimensions.same (.int 2)) :
    asRegistered r v = .error (.unsupportedKind v.kind) := by
  unfold asRegistered
  rw [absent, Option.isSome_none, if_neg Bool.false_ne_true]
  split
  · rename_i kind dimensions items array
    obtain ⟨noVector, noMatrix⟩ := other _ _ _ array
    rw [if_neg noVector, if_neg noMatrix]
  · rfl

theorem writeWithin_of_error {f : Fault} (failed : asRegistered r v = .error f) (n : Nat)
    (c : Context) : writeWithin r (n + 1) v c = .fail f := by
  rw [writeWithin, failed]
  rfl

theorem writeWithin_of_unregistered (stands : asRegistered r v = .ok shown)
    (none : r.resolve shown.kind = none) (n : Nat) (c : Context) :
    writeWithin r (n + 1) v c = .fail (.unsupportedKind shown.kind) := by
  rw [writeWithin, stands]
  simp only [Emission.attempt, none]

theorem writeWithin_of_registered (stands : asRegistered r v = .ok shown)
    (registered : (r.resolve shown.kind).isSome) (n : Nat) (c : Context) :
    writeWithin r n v c = writeWithin r n shown c := by
  cases n with
  | zero => rfl
  | succ n => rw [writeWithin, writeWithin, stands, asRegistered_of_isSome registered]

theorem budget_of_ok (stands : asRegistered r v = .ok shown) :
    budget r v = 2 * (height shown + 999) + 2 := by
  simp only [budget, stands]
  omega

theorem budget_of_registered (stands : asRegistered r v = .ok shown)
    (registered : (r.resolve shown.kind).isSome) : budget r v = budget r shown := by
  rw [budget_of_ok stands, budget_of_ok (asRegistered_of_isSome registered)]

theorem write_of_error {f : Fault} (failed : asRegistered r v = .error f) (c : Context) :
    write r v c = .fail f := by
  have one : budget r v = 0 + 1 := by simp only [budget, failed]
  rw [write, one, writeWithin_of_error failed]

theorem write_of_unregistered (stands : asRegistered r v = .ok shown)
    (none : r.resolve shown.kind = none) (c : Context) :
    write r v c = .fail (.unsupportedKind shown.kind) := by
  rw [write, budget_of_ok stands, writeWithin_of_unregistered stands none]

theorem write_of_registered (stands : asRegistered r v = .ok shown)
    (registered : (r.resolve shown.kind).isSome) (c : Context) :
    write r v c = write r shown c := by
  rw [write, budget_of_registered stands registered, writeWithin_of_registered stands registered,
    write]

end

/-- The built-in rules and defaults. Kinds may have been declared, which changes no lineage of a
built-in kind. -/
structure Registry.IsBuiltin (r : Registry) : Prop where
  rules : r.rules = Registry.builtinRules
  defaults : r.defaults = Registry.builtinDefaults
  lineages : ∀ kind, (∀ home name, kind ≠ .declared home name) → r.lineages.get? kind = none

theorem isBuiltin_builtin : Registry.builtin.IsBuiltin := ⟨rfl, rfl, fun _ _ => rfl⟩

theorem Registry.exists_of_mem_builtinRules {entry : Kind × Rule}
    (member : entry ∈ Registry.builtinRules) : ∃ b, entry.2 = .builtin b := by
  have all : ∀ entry ∈ Registry.builtinRules, ∃ b, entry.2 = .builtin b := by
    simp [Registry.builtinRules]
  exact all entry member

namespace Registry.IsBuiltin

variable {r : Registry} (plain : r.IsBuiltin)

include plain

theorem resolve_eq {kind : Kind} (home : ∀ home name, kind ≠ .declared home name) :
    r.resolve kind = Registry.builtin.resolve kind := by
  simp only [resolve, searchPath, lineage, plain.lineages kind home, plain.rules]
  rfl

theorem kindDefaults_eq {v : Value} (home : ∀ home name, v.kind ≠ .declared home name) :
    r.kindDefaults v = Registry.builtin.kindDefaults v := by
  simp only [kindDefaults, searchPath, lineage, plain.lineages v.kind home, plain.defaults]
  rfl

/-- The built-in defaults depend on the kind of a value only. -/
theorem kindDefaults_congr {v w : Value} (same : v.kind = w.kind) :
    r.kindDefaults v = r.kindDefaults w := by
  have constant : ∀ entry ∈ builtinDefaults, ∀ v w, entry.2 v = entry.2 w := by
    simp [builtinDefaults]
  unfold kindDefaults
  rw [plain.defaults, same]
  split
  · rename_i supplier found
    obtain ⟨k, -, listed⟩ := Table.mem_of_firstOn found
    exact constant _ listed v w
  · rfl

theorem exists_builtin {kind : Kind} {rule : Rule} (found : r.resolve kind = some rule) :
    ∃ b, rule = .builtin b := by
  obtain ⟨k, -, listed⟩ := Table.mem_of_firstOn found
  rw [plain.rules] at listed
  exact exists_of_mem_builtinRules listed

theorem kindDefaults_of_resolve {v : Value} (none : r.resolve v.kind = none) :
    r.kindDefaults v = OrderedMap.empty := by
  unfold resolve Table.firstOn at none
  rw [plain.rules, List.findSome?_eq_none_iff] at none
  have absent : builtinDefaults.firstOn (r.searchPath v.kind) = Option.none := by
    rw [Table.firstOn, List.findSome?_eq_none_iff]
    intro k listed
    have other : k ≠ .raw := by
      rintro rfl
      cases none _ listed
    simp [Table.get?, builtinDefaults, other.symm]
  rw [kindDefaults, plain.defaults, absent]

end Registry.IsBuiltin

/-! ### Writing without a budget -/

variable {r : Registry} (plain : r.IsBuiltin)

include plain

theorem writeWithin_succ (n : Nat) (v : Value) (c : Context) :
    writeWithin r (n + 2) v c = .attempt (asRegistered r v) fun v =>
      match r.resolve v.kind with
      | some (.builtin rule) => rule.apply (writeWithin r n) v (c.fill (r.kindDefaults v))
      | _ => .fail (.unsupportedKind v.kind) := by
  rw [writeWithin]
  cases asRegistered r v with
  | error f => rfl
  | ok v =>
    simp only [Emission.attempt]
    cases found : r.resolve v.kind with
    | none => rfl
    | some rule =>
      obtain ⟨b, rfl⟩ := plain.exists_builtin found
      exact applyWithin.eq_def r (n + 1) (.builtin b) v _

theorem writeWithin_leaf {x : Value} (leaf : IsLeaf x) (c : Context) (n m : Nat) :
    writeWithin r (n + 2) x c = writeWithin r (m + 2) x c := by
  rw [writeWithin_succ plain, writeWithin_succ plain]
  cases leaf with
  | int k =>
    have found : r.resolve (Value.int k).kind = some (.builtin .integer) :=
      plain.resolve_eq (by simp [Value.kind])
    simp [asRegistered, found, Emission.attempt, BuiltinRule.apply]
  | str text =>
    have found : r.resolve (Value.str text).kind = some (.builtin .string) :=
      plain.resolve_eq (by simp [Value.kind])
    simp [asRegistered, found, Emission.attempt, BuiltinRule.apply]
  | mode m =>
    have none : r.resolve (Value.mode m).kind = none := plain.resolve_eq (by simp [Value.kind])
    simp [asRegistered, none, Value.core, Emission.attempt]

theorem lower_of_writes {rule : BuiltinRule} {v x : Value} (writes : Writes rule v x)
    (found : r.resolve v.kind = some (.builtin rule)) : IsLeaf x ∨ height x < height v := by
  cases writes with
  | quotient | bound => exact .inl (.int _)
  | cell rows row within => exact Value.height_cell rows row within
  | item items member =>
    rcases Value.height_item items member with leaf | ⟨low, lower⟩
    · exact .inl leaf
    refine .inr ?_
    by_cases matrix : ∃ rows, v.core = .matrix rows
    · -- The vector rule is found for a matrix only if an object carries it.
      obtain ⟨rows, same⟩ := matrix
      cases v with
      | matrix rows =>
        have other : r.resolve (Value.matrix rows).kind = some (.builtin .matrix) :=
          plain.resolve_eq nofun
        rw [other] at found
        cases found
      | object kind core payload =>
        cases core with
        | none => cases same
        | some core =>
          rw [Value.core] at low
          simp only [height, Value.heightOption]
          omega
      | _ => cases same
    · have below := lower fun rows same => matrix ⟨rows, same⟩
      exact Nat.lt_of_lt_of_le below (Value.height_core_le v)

theorem writeWithin_eq (high : Nat) (v : Value) (c : Context) (n m : Nat)
    (bound : height v ≤ high) (n_enough : 2 * high + 2 ≤ n) (m_enough : 2 * high + 2 ≤ m) :
    writeWithin r n v c = writeWithin r m v c := by
  induction high generalizing v c n m with
  | zero =>
    have positive := height_pos v
    omega
  | succ high ih =>
    obtain ⟨n, rfl⟩ := Nat.exists_eq_add_of_le' (show 2 ≤ n by omega)
    obtain ⟨m, rfl⟩ := Nat.exists_eq_add_of_le' (show 2 ≤ m by omega)
    rw [writeWithin_succ plain, writeWithin_succ plain]
    cases registered : asRegistered r v with
    | error f => rfl
    | ok v =>
      have low := height_asRegistered registered
      simp only [Emission.attempt]
      split
      · rename_i rule found
        refine rule.apply_congr (.refl _) fun x c d writes alike => ?_
        rw [(writeWithin_alike r n).1 x c d alike]
        rcases lower_of_writes plain writes found with leaf | lower
        · obtain ⟨n, rfl⟩ := Nat.exists_eq_add_of_le' (show 2 ≤ n by omega)
          obtain ⟨m, rfl⟩ := Nat.exists_eq_add_of_le' (show 2 ≤ m by omega)
          exact writeWithin_leaf plain leaf d n m
        · exact ih x d n m (by omega) (by omega) (by omega)
      · rfl

theorem write_eq_writeWithin (v : Value) (c : Context) (n : Nat)
    (enough : 2 * height v + 2 ≤ n) : write r v c = writeWithin r n v c := by
  obtain ⟨n, rfl⟩ := Nat.exists_eq_add_of_le' (show 1 ≤ n by omega)
  cases stands : asRegistered r v with
  | error f => rw [write_of_error stands, writeWithin_of_error stands]
  | ok shown =>
    have low := height_asRegistered stands
    cases found : r.resolve shown.kind with
    | none => rw [write_of_unregistered stands found, writeWithin_of_unregistered stands found]
    | some rule =>
      have registered : (r.resolve shown.kind).isSome := by rw [found, Option.isSome_some]
      rw [write_of_registered stands registered, writeWithin_of_registered stands registered,
        write, budget_of_ok (asRegistered_of_isSome registered)]
      exact writeWithin_eq plain (height shown) shown c _ _ (Nat.le_refl _) (by omega) (by omega)

/-- With the built-in rules, writing never meets the end of the budget. -/
theorem write_eq (v : Value) (c : Context) :
    write r v c = .attempt (asRegistered r v) fun v =>
      match r.resolve v.kind with
      | some (.builtin rule) => rule.apply (write r) v (c.fill (r.kindDefaults v))
      | _ => .fail (.unsupportedKind v.kind) := by
  rw [write_eq_writeWithin plain v c (2 * height v + 2 + 2) (by omega), writeWithin_succ plain]
  cases registered : asRegistered r v with
  | error f => simp only [Emission.attempt]
  | ok found =>
    have low := height_asRegistered registered
    simp only [Emission.attempt]
    split
    · rename_i rule resolved
      refine rule.apply_congr (.refl _) fun x c d writes alike => ?_
      rw [(writeWithin_alike r _).1 x c d alike]
      have bound : height x ≤ height v := by
        rcases lower_of_writes plain writes resolved with leaf | lower
        · have positive := height_pos v
          rwa [leaf.height]
        · omega
      exact (write_eq_writeWithin plain x d _ (by omega)).symm
    · rfl

end Markup

end TypstMarkup
