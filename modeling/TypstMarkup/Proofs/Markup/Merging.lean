import TypstMarkup.Markup.Context
import TypstMarkup.Proofs.OrderedMap

/-!
Merged settings. Deriving puts settings above those of a context and filling puts them below, and
either can be done in several steps or in one, with the same keys in the same order. The values do
not depend on which of the two comes first.
-/
namespace TypstMarkup.Context

variable (c a b d f : Context)

theorem derive_eq_update : c.derive a = c.update a := rfl

/-- Deriving and filling are associative, orders included: keys that are present keep their place
and new ones follow in the order given. A value comes from the settings that a context is derived
with, then from the context, then from what it is filled with. -/
theorem merging_is_associative :
    (c.derive a).derive b = c.derive (a.update b) ∧
      c.derive a b = (c.derive a).derive b ∧
      (c.fill d).fill f = c.fill (d.fill f) ∧
      (c.derive a).keys = c.keys ++ a.keys.filter (· ∉ c.keys) ∧
      (c.fill d).keys = c.keys ++ d.keys.filter (· ∉ c.keys) ∧
      ∀ key,
        (derive (c.fill d) a).get? key = (a.get? key).or ((c.get? key).or (d.get? key)) ∧
        ((c.derive a).fill d).get? key = (a.get? key).or ((c.get? key).or (d.get? key)) := by
  refine ⟨?_, rfl, c.fill_fill d f, c.keys_update a, c.keys_fill d, fun key => ⟨?_, ?_⟩⟩
  · simp only [derive_eq_update, OrderedMap.update_update]
  · rw [derive_eq_update, OrderedMap.get?_update, OrderedMap.get?_fill]
  · rw [OrderedMap.get?_fill, derive_eq_update, OrderedMap.get?_update, Option.or_assoc]

end TypstMarkup.Context
