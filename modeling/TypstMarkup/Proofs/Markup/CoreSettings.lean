import TypstMarkup.Proofs.Markup.Documented

/-!
Core settings are read first. If mode, inline, indent or depth cannot be read, then this is found
before anything is written: the elements of a container are written under a mode, a depth and an
indentation that were read, and in math they do not ask whether math is inline.
-/
namespace TypstMarkup.Markup

open Emission

def coreKeys : List String := ["mode", "inline", "indent", "depth"]

theorem get?_default_of_notMem {key : String} (other : key ∉ coreKeys) :
    Context.default.get? key = none := by
  have keys : Context.default.entries.map Prod.fst = coreKeys := rfl
  rw [OrderedMap.get?, OrderedMap.find?_eq_none_of_notMem (keys ▸ other), Option.map_none]

/-- A core setting that does not have the kind of value that a rule expects. -/
def OfCore (f : Fault) : Prop :=
  ∃ key ∈ coreKeys, ∃ found expected, f = .settingType key found expected

/-! ### Failures of other kinds -/

theorem OfCore.documented {f : Fault} (core : OfCore f) : Documented f := by
  obtain ⟨key, -, found, expected, same⟩ := core
  exact .inr ⟨key, found, expected, same⟩

theorem not_ofCore_unsupportedKind {kind : Kind} : ¬OfCore (.unsupportedKind kind) := by
  rintro ⟨key, -, found, expected, same⟩
  cases same

theorem Refuses.not_ofCore {c : Context} {key : String} {f : Fault} (refused : Refuses c key f)
    (other : key ∉ coreKeys) : ¬OfCore f := by
  rintro ⟨core, known, found, expected, rfl⟩
  obtain ⟨_, same⟩ := refused
  unfold Fault.ofSetting at same
  split at same
  · cases same
  · cases same
    exact other known

theorem Obstacle.not_ofCore {v : Value} {c : Context} {f : Fault} {rule : BuiltinRule}
    (obstacle : Obstacle v c f rule) : ¬OfCore f := by
  cases obstacle with
  | unfit unfit => exact fun core => unfit.operational.not_documented core.documented
  | limit limit => exact fun core => limit.operational.not_documented core.documented
  | bytes _ _ failed =>
    subst failed
    exact not_ofCore_unsupportedKind
  | parameter _ known failed =>
    have other : ∀ key ∈ vectorParameters ++ matrixParameters, key ∉ coreKeys := by decide
    exact (refuses_parameter failed).not_ofCore (other _ known)

theorem not_ofCore_asRegistered {r : Registry} {v : Value} {f : Fault}
    (failed : asRegistered r v = .error f) : ¬OfCore f := by
  intro core
  rcases asRegistered_eq_error failed with ⟨kind, rfl⟩ | ⟨_, _, items, -, failed⟩
  · exact not_ofCore_unsupportedKind core
  · exact (isOperation_matrixRows? _ _ failed).not_documented core.documented

/-! ### Elements -/

theorem indent_inner (c : Context) (depth : Nat) : (inner c depth).indent = c.indent :=
  Context.indent_congr (get?_inner_of_ne c depth (by decide) (by decide))

theorem inside_inner {c : Context} {unit : List Char} (indent : c.indent = .ok unit)
    (depth : Nat) : Inside (inner c depth) where
  math := mode_inner c depth
  depth := ⟨depth + 1, Context.depth_withDepth _ _⟩
  indent := ⟨unit, by rw [indent_inner, indent]⟩

theorem inside_fill {c : Context} (within : Inside c) (defaults : Context) :
    Inside (c.fill defaults) := by
  obtain ⟨math, ⟨depth, deep⟩, unit, indent⟩ := within
  constructor
  · exact mode_fill defaults math
  · exact ⟨depth, depth_fill defaults deep⟩
  · exact ⟨unit, indent_fill defaults indent⟩

theorem not_ofCore_integerText {n : Int} {f : Fault} (failed : integerText n = .error f) :
    ¬OfCore f := by
  intro core
  exact (isOperation_integerText _ _ failed).not_documented core.documented

section

variable {r : Registry} (plain : r.IsBuiltin)

include plain

/-- If no element fails with a core setting, then the value does so only before it is written. -/
theorem guarded_of_elements {v : Value} {c : Context}
    (element : ∀ shown rule, Applies r v shown rule → ∀ x ∈ elements rule shown, ∀ depth unit,
      (settingsFor r shown c).indent = .ok unit →
        (write r x (inner (settingsFor r shown c) depth)).FailsOnly (¬OfCore ·)) :
    (write r v c).Guarded
      (fun f => ∃ shown rule, Applies r v shown rule ∧ Unread rule (settingsFor r shown c) f)
      (¬OfCore ·) := by
  apply write_guarded plain
  · exact fun f failed => not_ofCore_asRegistered failed
  · exact fun kind => not_ofCore_unsupportedKind
  · exact fun shown rule _ f obstacle => obstacle.not_ofCore
  · exact fun shown rule _ n _ f failed => not_ofCore_integerText failed
  · intro shown rule applies x member depth unit _ indent
    exact element shown rule applies x member depth unit indent

/-- An element of a container does not fail with a core setting. -/
theorem write_not_ofCore (v : Value) {c : Context} (within : Inside c) :
    (write r v c).FailsOnly (¬OfCore ·) := by
  induction v using element_induction plain generalizing c with
  | step v ih =>
    apply Guarded.failsOnly
    · apply guarded_of_elements plain
      intro shown rule applies x member depth unit indent
      exact ih shown rule x applies member (inside_inner indent depth)
    · rintro f ⟨shown, rule, applies, unread⟩
      have filled : Inside (settingsFor r shown c) := inside_fill within _
      obtain ⟨key, known, refused⟩ := unread.refuses_of_inside filled
      have other : ∀ key ∈ ["backticks", "block"], key ∉ coreKeys := by decide
      exact refused.not_ofCore (other key known)

/-- A core setting that cannot be read is found before anything is written, and no element of a
container, at whatever depth, fails with one. -/
theorem core_settings_come_first {v : Value} {c : Context} {key expected : String}
    {found : Value} (core : key ∈ coreKeys) :
    ((write r v c).fault = some (.settingType key found expected) → (write r v c).written = []) ∧
      ∀ depth unit x, c.depth = .ok depth → c.indent = .ok unit →
        (write r x (inner c depth)).fault ≠ some (.settingType key found expected) := by
  have named : OfCore (.settingType key found expected) := ⟨key, core, found, expected, rfl⟩
  constructor
  · intro failed
    have guarded := guarded_of_elements plain (v := v) (c := c)
      fun shown rule _ x _ depth unit indent => write_not_ofCore plain x (inside_inner indent depth)
    rcases guarded _ failed with other | ⟨-, nothing⟩
    · exact absurd named other
    · exact nothing
  · intro depth unit x _ indent failed
    exact write_not_ofCore plain x (inside_inner indent depth) _ failed named

end

/-- Settings among which whether math is inline is no truth value. -/
def crooked : Context :=
  OrderedMap.ofList [("mode", .mode .markup), ("inline", .str "yes"), ("indent", .str " "),
    ("depth", .int 1)]

theorem core_settings_come_first_crooked :
    let v := Value.list [.raw "x" "", .list [.null]]
    Registry.builtin.IsBuiltin ∧ "inline" ∈ coreKeys ∧
      (write Registry.builtin v crooked).fault =
        some (.settingType "inline" (.str "yes") "a bool") ∧
      (write Registry.builtin v crooked).written = [] ∧
      crooked.depth = .ok 1 ∧ crooked.indent = .ok [' '] ∧
      (write Registry.builtin v (inner crooked 1)).fault ≠
        some (.settingType "inline" (.str "yes") "a bool") := by
  intro v
  have core : "inline" ∈ coreKeys := by decide
  have failed : (write Registry.builtin v crooked).fault =
      some (.settingType "inline" (.str "yes") "a bool") := by rfl
  obtain ⟨first, later⟩ := core_settings_come_first isBuiltin_builtin core
  exact ⟨isBuiltin_builtin, core, failed, first failed, rfl, rfl, later 1 [' '] v rfl rfl⟩

end TypstMarkup.Markup
