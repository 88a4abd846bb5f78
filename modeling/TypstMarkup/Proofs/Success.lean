/-!
Computations that may fail, peeled apart: a computation succeeds exactly if each of its parts does,
and fails with the failure of the first part that does not.
-/
namespace TypstMarkup

theorem map_eq_ok_iff {ε α β : Type} {f : α → β} {x : Except ε α} {b : β} :
    x.map f = .ok b ↔ ∃ a, x = .ok a ∧ f a = b := by
  cases x <;> simp [Except.map]

theorem bind_eq_ok_iff {ε α β : Type} {x : Except ε α} {f : α → Except ε β} {b : β} :
    x >>= f = .ok b ↔ ∃ a, x = .ok a ∧ f a = .ok b := by
  cases x <;> simp [bind, Except.bind]

theorem map_eq_error_iff {ε α β : Type} {f : α → β} {x : Except ε α} {e : ε} :
    x.map f = .error e ↔ x = .error e := by
  cases x <;> simp [Except.map]

theorem bind_eq_error_iff {ε α β : Type} {x : Except ε α} {f : α → Except ε β} {e : ε} :
    x >>= f = .error e ↔ x = .error e ∨ ∃ a, x = .ok a ∧ f a = .error e := by
  cases x <;> simp [bind, Except.bind]

theorem bind_of_eq_ok {ε α β : Type} {x : Except ε α} {a : α} (made : x = .ok a)
    (f : α → Except ε β) : x >>= f = f a := by
  rw [made]
  rfl

theorem bind_of_eq_error {ε α β : Type} {x : Except ε α} {e : ε} (failed : x = .error e)
    (f : α → Except ε β) : x >>= f = .error e := by
  rw [failed]
  rfl

theorem mapError_eq_error_iff {ε ε' α : Type} {g : ε → ε'} {x : Except ε α} {e : ε'} :
    x.mapError g = .error e ↔ ∃ d, x = .error d ∧ g d = e := by
  cases x with
  | ok a =>
    refine iff_of_false nofun ?_
    rintro ⟨d, ⟨⟩, -⟩
  | error d =>
    constructor
    · rintro ⟨⟩
      exact ⟨d, rfl, rfl⟩
    · rintro ⟨_, ⟨⟩, rfl⟩
      rfl

theorem exists_eq_ok {ε α : Type} {x : Except ε α} (succeeds : x.toBool = true) :
    ∃ a, x = .ok a := by
  cases x with
  | error e => cases succeeds
  | ok a => exact ⟨a, rfl⟩

theorem exists_of_any {ε α : Type} {x : Except ε α} {p : α → Bool}
    (holds : x.toOption.any p = true) : ∃ a, x = .ok a ∧ p a = true := by
  cases x with
  | error e => cases holds
  | ok a => exact ⟨a, rfl, holds⟩

theorem exists_some_of_any {ε α : Type} {x : Except ε (Option α)} {p : α → Bool}
    (holds : x.toOption.any (Option.any p) = true) : ∃ a, x = .ok (some a) ∧ p a = true := by
  obtain ⟨found, read, holds⟩ := exists_of_any holds
  obtain ⟨a, rfl, holds⟩ := (Option.any_eq_true p found).1 holds
  exact ⟨a, read, holds⟩

/-- A computation that succeeds for each item succeeds for all of them. -/
theorem mapM_eq_ok_map {ε α β : Type} {f : α → Except ε β} {g : α → β} {items : List α}
    (each : ∀ a ∈ items, f a = .ok (g a)) : items.mapM f = .ok (items.map g) := by
  induction items with
  | nil => rfl
  | cons a rest ih =>
    rw [List.forall_mem_cons] at each
    rw [List.mapM_cons, each.1, ih each.2]
    rfl

end TypstMarkup
