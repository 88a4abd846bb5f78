import TypstMarkup.Proofs.Markup.Documented

/-!
Limits. Formatting gives a text, or refuses a kind or a setting. Anything else that it fails with
comes from a limit that a part of the value runs into: an integer with too many digits, a range or a
repetition that is too long, an array whose items are no rows, a value without what its rule needs.
-/
namespace TypstMarkup.Markup

open Emission

def settingKeys : List String :=
  ["mode", "inline", "indent", "depth", "backticks", "block"] ++ vectorParameters ++
    matrixParameters

/-- A part of a value runs into a limit when the value is written under a context: an array of two
dimensions whose items make no matrix, a setting that is refused and has too many digits to be
shown, or a limit of a rule. An object that does not have what the rule of its kind needs counts as
well. -/
inductive Exceeds (r : Registry) (f : Fault) : Value → Context → Prop
  | rows {v dimensions items : Value} {kind : Kind} (c : Context)
    (array : v.core = .array kind dimensions items true) (failed : items.matrixRows? = .error f) :
    Exceeds r f v c
  | setting {v shown : Value} {c : Context} {rule : BuiltinRule} {key : String}
    (applies : Applies r v shown rule) (known : key ∈ settingKeys)
    (long : ((settingsFor r shown c).found key).overlong = true) (failed : f = .tooManyDigits) :
    Exceeds r f v c
  | limit {v shown : Value} {c : Context} {rule : BuiltinRule} (applies : Applies r v shown rule)
    (limit : Limit shown (settingsFor r shown c) f rule) : Exceeds r f v c
  | unfit {v shown : Value} {rule : BuiltinRule} (c : Context) (applies : Applies r v shown rule)
    (unfit : Unfit shown f rule) : Exceeds r f v c
  | inside {v shown x : Value} {c : Context} {rule : BuiltinRule} {depth : Nat}
    (applies : Applies r v shown rule) (member : x ∈ elements rule shown)
    (deep : (settingsFor r shown c).depth = .ok depth)
    (below : Exceeds r f x (inner (settingsFor r shown c) depth)) : Exceeds r f v c

theorem documented_or_rows {r : Registry} {v : Value} {f : Fault} (c : Context)
    (failed : asRegistered r v = .error f) : Documented f ∨ Exceeds r f v c := by
  rcases asRegistered_eq_error failed with unsupported | ⟨_, _, items, array, failed⟩
  · exact .inl (.inl unsupported)
  · exact .inr (.rows c array failed)

section

variable {r : Registry} {v shown : Value} {c : Context} {f : Fault} {rule : BuiltinRule}
  (applies : Applies r v shown rule)

include applies

theorem documented_or_setting {key : String} (known : key ∈ settingKeys)
    (refused : Refuses (settingsFor r shown c) key f) : Documented f ∨ Exceeds r f v c := by
  rcases refused.documented_or_overlong with documented | ⟨long, failed⟩
  · exact .inl documented
  · exact .inr (.setting applies known long failed)

theorem documented_or_obstacle (obstacle : Obstacle shown (settingsFor r shown c) f rule) :
    Documented f ∨ Exceeds r f v c := by
  cases obstacle with
  | unfit unfit => exact .inr (.unfit c applies unfit)
  | limit limit => exact .inr (.limit applies limit)
  | bytes _ _ failed => exact .inl (.inl ⟨_, failed⟩)
  | parameter _ known failed =>
    apply documented_or_setting applies _ (refuses_parameter failed)
    rw [settingKeys, List.append_assoc]
    exact List.mem_append_right _ known

end

theorem write_documented_or_exceeds {r : Registry} (plain : r.IsBuiltin) (v : Value) (c : Context) :
    (write r v c).FailsOnly fun f => Documented f ∨ Exceeds r f v c := by
  induction v using element_induction plain generalizing c with
  | step v ih =>
    apply Guarded.failsOnly
    · apply write_guarded plain
      · exact fun f failed => documented_or_rows c failed
      · exact fun kind => .inl (.inl ⟨kind, rfl⟩)
      · exact fun shown rule applies f obstacle => documented_or_obstacle applies obstacle
      · exact fun shown rule applies n written f failed =>
          .inr (.limit applies (.digits written failed))
      · intro shown rule applies x member depth unit deep indent f failed
        rcases ih shown rule x applies member _ f failed with documented | below
        · exact .inl documented
        · exact .inr (.inside applies member deep below)
    · rintro f ⟨shown, rule, applies, unread⟩
      obtain ⟨key, known, refused⟩ := unread.refuses
      exact documented_or_setting applies
        (List.mem_append_left _ (List.mem_append_left _ known)) refused

theorem documented_or_exceeds_of_renderText {r : Registry} (plain : r.IsBuiltin) {v : Value}
    {settings : Context} {f : Fault} (failed : renderText r v settings = .error f) :
    Documented f ∨ Exceeds r f v (effectiveContext r v settings) := by
  obtain ⟨streamed, stopped⟩ := renderText_eq_error_iff.1 failed
  apply write_documented_or_exceeds plain
  rw [stopped]

theorem Exceeds.operational {r : Registry} {f : Fault} {v : Value} {c : Context}
    (exceeds : Exceeds r f v c) : f.Operational := by
  induction exceeds with
  | rows c _ failed => exact isOperation_matrixRows? _ _ failed
  | setting _ _ _ failed =>
    subst failed
    rfl
  | limit _ limit => exact limit.operational
  | unfit _ _ unfit => exact unfit.operational
  | inside _ _ _ _ ih => exact ih

theorem Exceeds.not_documented {r : Registry} {f : Fault} {v : Value} {c : Context}
    (exceeds : Exceeds r f v c) : ¬Documented f :=
  exceeds.operational.not_documented

/-- Formatting gives a text or a documented failure exactly if it does not stop at a limit that a
part of the value runs into. -/
theorem failure_is_documented_iff {r : Registry} (plain : r.IsBuiltin) (v : Value)
    (settings : Context) :
    ((∃ text, format r v settings = .ok (.markup text)) ∨
        ∃ f, format r v settings = .error f ∧ Documented f) ↔
      ∀ f, Exceeds r f v (effectiveContext r v settings) → format r v settings ≠ .error f := by
  constructor
  · rintro (⟨text, made⟩ | ⟨g, failed, documented⟩) f exceeds stopped
    · rw [made] at stopped
      cases stopped
    · rw [failed] at stopped
      cases stopped
      exact exceeds.not_documented documented
  · intro unstopped
    cases result : format r v settings with
    | ok out =>
      obtain ⟨text, -, rfl⟩ := format_eq_ok_iff.1 result
      exact .inl ⟨_, rfl⟩
    | error f =>
      have failed : (write r v (effectiveContext r v settings)).fault = some f := by
        obtain ⟨streamed, stopped⟩ := renderText_eq_error_iff.1 (map_eq_error_iff.1 result)
        rw [stopped]
      rcases write_documented_or_exceeds plain v _ f failed with documented | exceeds
      · exact .inr ⟨f, rfl, documented⟩
      · exact absurd result (unstopped f exceeds)

/-- A range with one element more than a sequence can have. -/
def endless : Progression := ⟨0, 0x8000000000000000, 1, Int.one_ne_zero⟩

theorem failure_is_documented_iff_endless :
    let v := Value.list [.null, .range endless]
    Registry.builtin.IsBuiltin ∧
      Exceeds .builtin .notANativeSize v (effectiveContext .builtin v .empty) ∧
      format .builtin v .empty = .error .notANativeSize ∧
      ¬((∃ text, format .builtin v .empty = .ok (.markup text)) ∨
        ∃ f, format .builtin v .empty = .error f ∧ Documented f) := by
  intro v
  have long : wordLimit ≤ endless.length := by decide
  have list : Applies .builtin v v .vector := applies_of_resolve rfl
  have range : Applies .builtin (.range endless) (.range endless) .range := applies_of_resolve rfl
  have deep : (settingsFor .builtin v (effectiveContext .builtin v .empty)).depth = .ok 0 := rfl
  have member : .range endless ∈ elements .vector v := List.mem_cons_of_mem _ List.mem_cons_self
  have exceeds : Exceeds .builtin .notANativeSize v (effectiveContext .builtin v .empty) := by
    apply Exceeds.inside list member deep
    exact .limit range (.length rfl long rfl)
  have stopped : format .builtin v .empty = .error .notANativeSize := by rfl
  refine ⟨isBuiltin_builtin, exceeds, stopped, ?_⟩
  intro meets
  exact (failure_is_documented_iff isBuiltin_builtin v .empty).1 meets _ exceeds stopped

theorem endless_range_is_not_documented :
    ¬∀ (v : Value) (settings : Context),
      (∃ text, format .builtin v settings = .ok (.markup text)) ∨
        ∃ f, format .builtin v settings = .error f ∧ Documented f := by
  intro closed
  have stopped : format .builtin (.range endless) .empty = .error .notANativeSize := by rfl
  rcases closed (.range endless) .empty with ⟨text, made⟩ | ⟨f, failed, documented⟩
  · rw [stopped] at made
    cases made
  · rw [stopped] at failed
    cases failed
    exact absurd documented (not_documented nofun nofun)

end TypstMarkup.Markup
