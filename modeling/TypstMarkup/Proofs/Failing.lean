import TypstMarkup.CommandLine.Refusal
import TypstMarkup.Proofs.Success

/-!
The failures a computation can end with. What is known of the failures of its parts is known of the
failures of the whole.
-/
namespace TypstMarkup

/-- Every failure of a computation is one of certain ones. -/
def FailsWithin {ε α : Type} (P : ε → Prop) (x : Except ε α) : Prop :=
  ∀ f, x = .error f → P f

section

variable {ε α β : Type} {P Q : ε → Prop}

@[simp] theorem failsWithin_ok (a : α) : FailsWithin P (.ok a : Except ε α) := by
  rintro _ ⟨⟩

@[simp] theorem failsWithin_pure (a : α) : FailsWithin P (pure a : Except ε α) :=
  failsWithin_ok a

@[simp] theorem failsWithin_error {f : ε} :
    FailsWithin P (.error f : Except ε α) ↔ P f := by
  constructor
  · exact fun within => within f rfl
  · rintro allowed _ ⟨⟩
    exact allowed

@[simp] theorem failsWithin_throw {f : ε} :
    FailsWithin P (throw f : Except ε α) ↔ P f :=
  failsWithin_error

@[simp] theorem failsWithin_map {x : Except ε α} {g : α → β} :
    FailsWithin P (x.map g) ↔ FailsWithin P x := by
  cases x <;> simp [Except.map]

@[simp] theorem failsWithin_map' {x : Except ε α} {g : α → β} :
    FailsWithin P (g <$> x) ↔ FailsWithin P x :=
  failsWithin_map

theorem FailsWithin.mono {x : Except ε α} (within : FailsWithin P x) (weaker : ∀ f, P f → Q f) :
    FailsWithin Q x := by
  intro f failed
  exact weaker f (within f failed)

theorem FailsWithin.bind {x : Except ε α} {g : α → Except ε β} (first : FailsWithin P x)
    (next : ∀ a, x = .ok a → FailsWithin P (g a)) : FailsWithin P (x >>= g) := by
  intro f failed
  rcases bind_eq_error_iff.1 failed with failed | ⟨a, made, failed⟩
  · exact first f failed
  · exact next a made f failed

/-- A computation behind a check. -/
theorem FailsWithin.guard {x : Except ε α} {c : Prop} [Decidable c] {f : ε} (refused : P f)
    (next : FailsWithin P x) :
    FailsWithin P (if c then throw f >>= fun _ : PUnit => x else x) := by
  split
  · exact FailsWithin.bind (failsWithin_throw.2 refused) fun _ _ => next
  · exact next

theorem failsWithin_mapM {g : α → Except ε β} {items : List α}
    (each : ∀ a ∈ items, FailsWithin P (g a)) : FailsWithin P (items.mapM g) := by
  induction items with
  | nil => exact failsWithin_pure []
  | cons a rest ih =>
    rw [List.forall_mem_cons] at each
    rw [List.mapM_cons]
    exact each.1.bind fun b _ => (ih each.2).bind fun bs _ => failsWithin_pure _

theorem failsWithin_foldlM {g : β → α → Except ε β} {items : List α}
    (each : ∀ b a, FailsWithin P (g b a)) (start : β) : FailsWithin P (items.foldlM g start) := by
  induction items generalizing start with
  | nil => exact failsWithin_pure start
  | cons a rest ih => exact (each start a).bind fun b _ => ih b

theorem failsWithin_forIn {g : α → β → Except ε (ForInStep β)} {items : List α}
    (each : ∀ a b, FailsWithin P (g a b)) (start : β) : FailsWithin P (forIn items start g) := by
  induction items generalizing start with
  | nil => exact failsWithin_pure start
  | cons a rest ih =>
    rw [List.forIn_cons]
    refine (each a start).bind fun next _ => ?_
    cases next with
    | done b => exact failsWithin_pure b
    | yield b => exact ih b

end

/-! ### Failures of operations -/

/-- The categories of failures that operations on values end with. -/
@[simp] def isOperational : Category → Bool
  | .typeError | .valueError | .nameError | .attributeError | .indexError | .keyError
  | .zeroDivision | .overflow | .memory | .invalidDecimal | .badPattern => true
  | _ => false

attribute [simp] Fault.category

/-- A failure that an operation on values may end with. -/
def Fault.Operational (f : Fault) : Prop :=
  isOperational f.category = true

@[simp] theorem operational_iff {f : Fault} :
    f.Operational ↔ isOperational f.category = true :=
  Iff.rfl

/-- A computation whose failures are those of operations on values. -/
abbrev IsOperation {α : Type} (x : Except Fault α) : Prop :=
  FailsWithin Fault.Operational x

/-- A computation whose failures are all of one category. -/
abbrev FailsAs {α : Type} (c : Category) (x : Except Fault α) : Prop :=
  FailsWithin (fun f => f.category = c) x

theorem FailsAs.isOperation {α : Type} {c : Category} {x : Except Fault α} (fails : FailsAs c x)
    (known : isOperational c = true) : IsOperation x := by
  intro f failed
  rw [operational_iff, fails f failed, known]

end TypstMarkup
