import TypstMarkup.Proofs.Markup.ArrayLike
import TypstMarkup.Proofs.Markup.Failure

/-!
Settings that matter. A built-in rule looks up what is documented for its kind and nothing else, and
the contexts of the elements that it writes keep all settings but those it has just set. So contexts
that agree on what is documented for the kinds that occur in a value are the same to it.
-/
namespace TypstMarkup.Markup

/-! ### Documented settings -/

/-- The settings and the parameters that are documented for the values of a kind. -/
def documentedSettings : Table (List String) :=
  [(.bool, ["mode"]), (.integral, []), (.float, []), (.decimal, []),
    (.fraction, ["mode", "inline"]), (.complex, ["mode", "inline"]), (.char, ["mode"]),
    (.str, ["mode"]), (.pattern, ["mode"]), (.null, ["mode"]), (.range, ["mode"]),
    (.verbatim, []), (.markup, []), (.raw, ["mode", "backticks", "block"]),
    (.tuple, ["mode", "inline", "indent", "depth", "delim", "gap"]),
    (.list, ["mode", "inline", "indent", "depth", "delim", "gap"]),
    (.matrix, ["mode", "inline", "indent", "depth", "delim", "augment", "gap", "row_gap",
      "column_gap"])]

/-- What is documented for the most specific kind of a value that is documented. -/
def documentedFor (r : Registry) (v : Value) : List String :=
  (documentedSettings.firstOn (r.searchPath v.kind)).getD []

/-- The keys under which a registered rule looks settings up, if it is a built-in one. -/
def Rule.reads : Rule → List String
  | .builtin rule => rule.reads
  | .composed _ _ => []

theorem documentedSettings_eq :
    documentedSettings = Registry.builtinRules.map fun entry => (entry.1, entry.2.reads) := rfl

theorem Table.firstOn_map {α β : Type} (table : Table α) (f : α → β) (path : List Kind) :
    firstOn (table.map fun entry => (entry.1, f entry.2)) path = (table.firstOn path).map f := by
  have entries : get? (table.map fun entry => (entry.1, f entry.2)) =
      fun kind => (table.get? kind).map f := by
    funext kind
    unfold get?
    rw [List.find?_map, Option.map_map, Option.map_map]
    rfl
  rw [firstOn, entries, firstOn, List.map_findSome?]
  rfl

section

variable {r : Registry} (plain : r.IsBuiltin)

include plain

/-- The built-in rules look up exactly what is documented for the kinds that they are for. -/
theorem documentedFor_eq_reads {v : Value} {rule : BuiltinRule}
    (found : r.resolve v.kind = some (.builtin rule)) : documentedFor r v = rule.reads := by
  rw [Registry.resolve, plain.rules] at found
  rw [documentedFor, documentedSettings_eq, Table.firstOn_map, found]
  rfl

end

theorem mode_mem_reads {rule : BuiltinRule} : "inline" ∈ rule.reads → "mode" ∈ rule.reads := by
  cases rule <;> decide

/-! ### Values that occur -/

/-- The values that a value consists of: what it stands for, and what its elements consist of. -/
inductive Occurs (r : Registry) : Value → Value → Prop where
  | itself {v shown : Value} (stands : asRegistered r v = .ok shown) : Occurs r v shown
  | element {v shown x y : Value} {rule : BuiltinRule} (applies : Applies r v shown rule)
      (member : x ∈ elements rule shown) (within : Occurs r x y) : Occurs r v y

/-- Contexts that agree on what is documented for the kinds that occur in a value. -/
def AgreeFor (r : Registry) (v : Value) (c d : Context) : Prop :=
  ∀ x, Occurs r v x → ∀ key ∈ documentedFor r x, c.get? key = d.get? key

section

variable {r : Registry} {v shown x : Value} {rule : BuiltinRule} {c d : Context}

theorem AgreeFor.fill (agree : AgreeFor r v c d) (defaults : Context) :
    AgreeFor r v (c.fill defaults) (d.fill defaults) := fun x occurs key listed => by
  rw [OrderedMap.get?_fill, OrderedMap.get?_fill, agree x occurs key listed]

theorem AgreeFor.insert (agree : AgreeFor r v c d) (key : String) (set : Value) :
    AgreeFor r v (c.insert key set) (d.insert key set) := fun x occurs other listed =>
  Context.get?_insert_congr set fun _ => agree x occurs other listed

theorem AgreeFor.element (agree : AgreeFor r v c d) (applies : Applies r v shown rule)
    (member : x ∈ elements rule shown) : AgreeFor r x c d :=
  fun y occurs => agree y (.element applies member occurs)

theorem elements_of_writes (writes : Writes rule v x) :
    x ∈ elements rule v ∨ ∃ n, x = .int n := by
  cases writes with
  | quotient n | bound n => exact .inr ⟨_, rfl⟩
  | item found member =>
    refine .inl ?_
    simpa [elements, found, Except.toOption] using member
  | cell found member within =>
    refine .inl ?_
    simp only [elements, found, Except.toOption, Option.getD_some, List.mem_flatMap]
    exact ⟨_, member, within⟩

variable (plain : r.IsBuiltin)

include plain

theorem AgreeFor.agrees (agree : AgreeFor r v c d) (applies : Applies r v shown rule) :
    rule.Agrees c d := by
  have same : ∀ key ∈ rule.reads, c.get? key = d.get? key := by
    rw [← documentedFor_eq_reads plain applies.found]
    exact agree shown (.itself applies.registered)
  exact ⟨fun inline => mathPad_congr (same _ (mode_mem_reads inline)) (same _ inline),
    fun key read _ => same key read⟩

/-- What is written for a value depends only on what is documented for its kind, and on what is
written for its elements. -/
theorem write_congr_of_elements (agree : AgreeFor r v c d)
    (within : ∀ shown rule x, Applies r v shown rule → x ∈ elements rule shown →
      ∀ {c d : Context}, AgreeFor r x c d → write r x c = write r x d) :
    write r v c = write r v d := by
  rw [write_eq plain, write_eq plain]
  cases registered : asRegistered r v with
  | error f => rfl
  | ok shown =>
    simp only [Emission.attempt]
    split
    · rename_i rule found
      have applies : Applies r v shown rule := ⟨registered, found⟩
      have filled := agree.fill (r.kindDefaults shown)
      refine rule.apply_congr_of_agrees (filled.agrees plain applies) (fun n _ => ?_)
        fun x writes depth => ?_
      · simp only [write_int plain, implies_true, and_self]
      · rcases elements_of_writes writes with member | ⟨n, rfl⟩
        · have inner := ((filled.element applies member).insert "mode" (.mode .math)).insert
            "depth" (.int depth)
          exact within shown rule x applies member inner
        · rw [write_int plain, write_int plain]
    · rfl

/-- What is written for a value depends only on the settings and parameters that are documented for
the kinds that occur in it. -/
theorem write_congr_of_documented (agree : AgreeFor r v c d) : write r v c = write r v d := by
  induction v using element_induction plain generalizing c d with
  | step v ih => exact write_congr_of_elements plain agree ih

end

/-- A grid of one dimension that holds a truth value. -/
def tick : Value := .array gridKind (.int 1) (.list [.bool true]) true

theorem occurs_tick {x : Value} (occurs : Occurs .builtin tick x) :
    x ∈ [.list [.bool true], .bool true] := by
  have stands : asRegistered .builtin tick = .ok (.list [.bool true]) :=
    asRegistered_array rfl rfl (standsFor?_one _)
  cases occurs with
  | itself stands' =>
    cases stands.symm.trans stands'
    exact List.mem_cons_self
  | element applies member within =>
    have vector : Applies .builtin tick (.list [.bool true]) .vector := ⟨stands, rfl⟩
    obtain ⟨rfl, rfl⟩ := vector.unique applies
    cases List.mem_singleton.1 member
    cases within with
    | itself stands' =>
      cases (asRegistered_of_isSome rfl).symm.trans stands'
      exact List.mem_cons_of_mem _ List.mem_cons_self
    | element applies member =>
      obtain ⟨rfl, rfl⟩ := (applies_of_resolve rfl).unique applies
      cases member

/-- The rows of a matrix and the fences of raw elements do not matter to a grid of truth values. -/
theorem write_congr_of_documented_tick :
    let settings : List (String × Value) := [("mode", .mode .markup), ("inline", .bool true),
      ("indent", .str " "), ("depth", .int 0), ("gap", .str "1em")]
    let c : Context := OrderedMap.ofList (("row_gap", .int 7) :: settings)
    let d : Context := OrderedMap.ofList (settings ++ [("backticks", .null), ("block", .null)])
    AgreeFor .builtin tick c d ∧ (write .builtin tick c).fault.isNone ∧
      write .builtin tick c = write .builtin tick d := by
  intro settings c d
  have agree : AgreeFor .builtin tick c d := by
    intro x occurs key listed
    have documented : key ∈ ["mode", "inline", "indent", "depth", "delim", "gap"] := by
      rcases List.mem_cons.1 (occurs_tick occurs) with rfl | inside
      · exact listed
      · cases List.mem_singleton.1 inside
        rw [List.mem_singleton.1 listed]
        exact List.mem_cons_self
    have same : ∀ key ∈ ["mode", "inline", "indent", "depth", "delim", "gap"],
        c.get? key = d.get? key := by
      simp only [List.forall_mem_cons]
      exact ⟨rfl, rfl, rfl, rfl, rfl, rfl, nofun⟩
    exact same key documented
  exact ⟨agree, by decide +kernel, write_congr_of_documented isBuiltin_builtin agree⟩

/-! ### Settings that do not matter -/

/-- Settings that change nothing that is documented for the kinds in a value do not matter to it. -/
theorem renderText_congr {r : Registry} (plain : r.IsBuiltin) {v : Value} {settings c : Context}
    (agree : AgreeFor r v (effectiveContext r v settings) c) :
    renderText r v settings = (write r v c).toExcept := by
  rw [renderText]
  generalize effectiveContext r v settings = d at agree
  congr 1
  induction v using element_induction plain generalizing c d with
  | step v ih =>
    exact write_congr_of_elements plain agree fun shown rule x applies member _ _ inner =>
      ih shown rule x applies member _ inner

/-- No setting is documented for integers and floating-point numbers. -/
theorem agreeFor_of_number {v : Value} (kind : v.kind = .int ∨ v.kind = .float)
    (c d : Context) : AgreeFor .builtin v c d := by
  obtain ⟨rule, found, silent, leaf⟩ : ∃ rule,
      Registry.builtin.resolve v.kind = some (.builtin rule) ∧ rule.reads = [] ∧
        ∀ shown, elements rule shown = [] := by
    rcases kind with kind | kind <;> rw [kind]
    · exact ⟨.integer, rfl, rfl, fun _ => rfl⟩
    · exact ⟨.float, rfl, rfl, fun _ => rfl⟩
  have applies := applies_of_resolve found
  intro x occurs key listed
  cases occurs with
  | itself stands =>
    cases applies.registered.symm.trans stands
    rw [documentedFor_eq_reads isBuiltin_builtin found, silent] at listed
    cases listed
  | element applies' member =>
    obtain ⟨rfl, rfl⟩ := applies.unique applies'
    rw [leaf] at member
    cases member

end TypstMarkup.Markup
