import TypstMarkup.Proofs.Markup.Composed

/-!
Formatting at the top. Settings are laid over the defaults there, while a value within another one
is written under the context it is given. Where a context holds all core settings, both give the
same. The constructor of finished source takes text and source as they are; where their rules are
the built-in ones, it gives what every other value gives.
-/
namespace TypstMarkup.Markup

/-! ### Contexts with all core settings -/

theorem complete_of_keys {c : Context} (core : ∀ key ∈ Context.default.keys, key ∈ c.keys) :
    Complete c := by
  intro key
  by_cases isCore : key ∈ Context.default.keys
  · have present := core key isCore
    rw [← OrderedMap.contains_iff, ← OrderedMap.isSome_get?] at present
    obtain ⟨v, found⟩ := Option.isSome_iff_exists.1 present
    rw [found, Option.some_or]
  · have absent : Context.default.get? key = none := by
      rw [OrderedMap.get?, OrderedMap.find?_eq_none_of_notMem isCore, Option.map_none]
    rw [absent, Option.or_none]

/-- Whatever rules and defaults are registered, a value with a rule is written under a complete
context as it is formatted with that context for settings. -/
theorem renderText_eq_write (r : Registry) {v : Value} (registered : (r.resolve v.kind).isSome)
    {c : Context} (core : ∀ key ∈ ["mode", "inline", "indent", "depth"], key ∈ c.keys) :
    renderText r v c = (write r v c).toExcept := by
  have known : asRegistered r v = .ok v := by simp [asRegistered, registered]
  have complete : Complete c := complete_of_keys core
  rw [renderText, write_effectiveContext r known complete]

def boxedKind : Kind := .declared "notes" "Boxed"

/-- A registry with a rule that switches to math for what an object carries and asks for a setting
that its defaults provide, and with defaults for lists. -/
def boxing : Registry :=
  ((Registry.builtin.addRule boxedKind (.composed "show_boxed"
    [.text "box(", .setting "fill", .payload [("mode", .mode .math)], .accessor .mode])).addDefaults
      boxedKind (OrderedMap.ofList [("mode", .mode .code), ("fill", .str "red")])).addDefaults
        .list (OrderedMap.ofList [("delim", .str "\"[\""), ("depth", .int 7)])

def boxed : Value :=
  .object boxedKind none (some (.list [.int 1, .object boxedKind none (some (.bool true))]))

/-- All core settings in an order of their own; whether math is inline cannot be read. -/
def shuffled : Context :=
  OrderedMap.ofList [("depth", .int 1), ("inline", .int 4), ("mode", .mode .markup),
    ("indent", .str " ")]

theorem renderText_eq_write_boxed :
    (boxing.resolve boxed.kind).isSome ∧
      (∀ key ∈ ["mode", "inline", "indent", "depth"], key ∈ shuffled.keys) ∧
      (write boxing boxed shuffled).fault.isNone ∧
      renderText boxing boxed shuffled = (write boxing boxed shuffled).toExcept := by
  have core : ∀ key ∈ ["mode", "inline", "indent", "depth"], key ∈ shuffled.keys := by decide
  exact ⟨rfl, core, by decide +kernel, renderText_eq_write boxing rfl core⟩

/-! ### Text and finished source -/

/-- Verbatim text and finished source, and the kinds that derive from them, have their built-in
rules. -/
structure Registry.KeepsSource (r : Registry) : Prop where
  verbatim : ∀ kind, .verbatim ∈ r.lineage kind → r.resolve kind = some (.builtin .verbatim)
  markup : ∀ kind, .markup ∈ r.lineage kind → r.resolve kind = some (.builtin .markup)

/-- An object that carries verbatim text or finished source is of a kind that derives from it. -/
def Derives (r : Registry) (v : Value) : Prop :=
  ∀ kind ∈ [Kind.verbatim, Kind.markup], v.core.kind = kind → kind ∈ r.lineage v.kind

theorem write_of_resolve (r : Registry) {v : Value} {rule : BuiltinRule}
    (found : r.resolve v.kind = some (.builtin rule)) (c : Context) :
    ∃ n, write r v c =
      rule.apply (writeWithin r n) v (c.fill (r.kindDefaults v)) := by
  have registered : asRegistered r v = .ok v := asRegistered_of_isSome (by rw [found]; rfl)
  refine ⟨2 * (v.height + 999), ?_⟩
  rw [write, budget_of_ok registered, writeWithin, registered]
  simp only [Emission.attempt, found]
  rw [applyWithin.eq_def]

theorem renderText_verbatim {r : Registry} (keeps : r.KeepsSource) {v : Value}
    (derives : Derives r v) {text : String} (same : v.core = .verbatim text) (settings : Context) :
    renderText r v settings = .ok text.toList := by
  have found := keeps.verbatim v.kind (derives .verbatim (by decide) (by rw [same]; rfl))
  obtain ⟨n, written⟩ := write_of_resolve r found (effectiveContext r v settings)
  rw [renderText, written, BuiltinRule.apply, writeVerbatim, same]
  rfl

theorem renderText_markup {r : Registry} (keeps : r.KeepsSource) {v : Value}
    (derives : Derives r v) {text : String} (same : v.core = .markup text) (settings : Context) :
    renderText r v settings = .ok text.toList := by
  have found := keeps.markup v.kind (derives .markup (by decide) (by rw [same]; rfl))
  obtain ⟨n, written⟩ := write_of_resolve r found (effectiveContext r v settings)
  rw [renderText, written, BuiltinRule.apply, writeMarkup, plainOf, Value.text?, same]
  rfl

/-- The shortcuts of the constructor give what the rules give. -/
theorem construct_eq_format {r : Registry} (keeps : r.KeepsSource) {v : Value}
    (derives : Derives r v) (settings : Context) :
    construct r v settings = format r v settings := by
  unfold construct
  split
  · rename_i text same
    rw [format, renderText_verbatim keeps derives same, Except.map, String.ofList_toList]
  · rename_i text same
    split
    · rw [format, renderText_markup keeps derives same, Except.map, String.ofList_toList]
    · rfl
  · rfl

end TypstMarkup.Markup
