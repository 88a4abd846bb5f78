import TypstMarkup.Proofs.Expression.LiteralKind
import TypstMarkup.Proofs.Value.Operation

/-!
How reading a literal fails. A source may be no literal or hold members and keys that cannot be
compared by a hash. A single operation is left to fail as such: the sum with an imaginary number
needs an integer that is no greater than any float.
-/
namespace TypstMarkup.Expression

/-- A failure to read a literal. -/
def LiteralFault (f : Fault) : Prop :=
  f.category ∈ [.valueError, .syntaxError, .typeError, .overflow]

@[simp] theorem literalFault_noLiteral : LiteralFault noLiteral :=
  List.mem_cons_self

theorem literalFault_of_failsAs {α : Type} {c : Category} {x : Except Fault α} (fails : FailsAs c x)
    (known : c ∈ [.valueError, .syntaxError, .typeError, .overflow]) :
    FailsWithin LiteralFault x := by
  intro f failed
  rw [LiteralFault, fails f failed]
  exact known

theorem literalFault_numberOf (e : Expr) : FailsWithin LiteralFault (numberOf e) := by
  unfold numberOf
  split
  · split <;> simp
  · simp

theorem literalFault_signedNumberOf (e : Expr) : FailsWithin LiteralFault (signedNumberOf e) := by
  -- A sign in front of a number never fails.
  have signed {v : Value} (plain : isPlainNumber v = true) :
      (∃ w, v.positive = .ok w) ∧ ∃ w, v.negative = .ok w := by
    cases v with
    | int | float | complex => exact ⟨⟨_, rfl⟩, ⟨_, rfl⟩⟩
    | _ => cases plain
  unfold signedNumberOf
  split
  · refine (literalFault_numberOf _).bind fun v read => ?_
    obtain ⟨⟨w, positive⟩, -⟩ := signed (isPlainNumber_of_numberOf read)
    rw [positive]
    exact failsWithin_ok w
  · refine (literalFault_numberOf _).bind fun v read => ?_
    obtain ⟨-, w, negative⟩ := signed (isPlainNumber_of_numberOf read)
    rw [negative]
    exact failsWithin_ok w
  · exact literalFault_numberOf _

theorem literalFault_complexSum (op : Operator) (left right : Expr) :
    FailsWithin LiteralFault (complexSum op left right) := by
  have summed (sum : (op == .add || op == .sub) = true) (a b : Binary64 × Binary64)
      (mismatch : Fault) : FailsWithin LiteralFault
        (Number.onComplexes op a.1 a.2 b.1 b.2 mismatch) := by
    cases op with
    | add | sub => exact failsWithin_ok _
    | _ => cases sum
  -- Only the conversion of an integer can fail.
  have converted (n : Int) : FailsWithin LiteralFault (Number.int n).toComplex? :=
    failsWithin_map.2 (literalFault_of_failsAs (failsAs_floatOfInt? n) (by decide))
  refine (literalFault_signedNumberOf left).bind fun v _ =>
    (literalFault_numberOf right).bind fun w _ => ?_
  split
  · split
    · rename_i sum
      change FailsWithin LiteralFault (Number.apply op (.int _) (.complex _ _) _)
      exact (converted _).bind fun a _ => (failsWithin_ok _).bind fun b _ => summed sum a b _
    · simp
  · split
    · rename_i sum
      change FailsWithin LiteralFault (Number.apply op (.float _) (.complex _ _) _)
      exact (failsWithin_ok _).bind fun a _ => (failsWithin_ok _).bind fun b _ => summed sum a b _
    · simp
  · simp

mutual

theorem literalFault_literalOf : (e : Expr) → FailsWithin LiteralFault (literalOf e)
  | .constant v => failsWithin_ok v
  | .tuple items _ | .list items _ =>
    (literalFault_literalsOf items).bind fun _ _ => failsWithin_pure _
  | .set items => (literalFault_literalsOf items).bind fun vs _ =>
      literalFault_of_failsAs (failsAs_ofMembers? vs) (by decide)
  | .dict entries => (literalFault_keysOf entries).bind fun keys _ =>
      (literalFault_valuesOf entries).bind fun _ _ =>
        literalFault_of_failsAs (failsAs_ofEntries? _) (by decide)
  | .binary op left right => literalFault_complexSum op left right
  | .call callee arguments keywords line => by
    unfold literalOf
    split
    case h_6 => exact failsWithin_ok _
    case h_8 => exact literalFault_signedNumberOf _
    all_goals contradiction
  | .name _ _ | .formatted _ | .field _ _ _ | .starred _ _ | .unary _ _ | .boolean _ _
  | .compare _ _ | .conditional _ _ _ | .function _ _ _ | .comprehension _ _ _ _ _
  | .attribute _ _ _ | .subscript _ _ | .slice _ _ _ | .assign _ _ _ | .await _ _
  | .yield _ _ => by
    unfold literalOf
    exact literalFault_signedNumberOf _

theorem literalFault_literalsOf : (es : List Expr) → FailsWithin LiteralFault (literalsOf es)
  | [] => failsWithin_ok _
  | e :: rest => (literalFault_literalOf e).bind fun _ _ =>
      (literalFault_literalsOf rest).bind fun _ _ => failsWithin_pure _

theorem literalFault_keysOf : (entries : List Entry) → FailsWithin LiteralFault (keysOf entries)
  | [] => failsWithin_ok _
  | .mk (some key) _ :: rest => (literalFault_literalOf key).bind fun _ _ =>
      (literalFault_keysOf rest).bind fun _ _ => failsWithin_pure _
  | .mk none _ :: _ => failsWithin_error.2 literalFault_noLiteral

theorem literalFault_valuesOf : (entries : List Entry) → FailsWithin LiteralFault (valuesOf entries)
  | [] => failsWithin_ok _
  | .mk _ e :: rest => (literalFault_literalOf e).bind fun _ _ =>
      (literalFault_valuesOf rest).bind fun _ _ => failsWithin_pure _

end

/-- Whatever a literal fails with, it is one of the failures of literals. -/
theorem literalFault_literal? (source : List Char) :
    FailsWithin LiteralFault (literal? source) := by
  unfold literal?
  split
  · exact literalFault_literalOf _
  · exact failsWithin_error.2 (List.mem_cons_of_mem _ List.mem_cons_self)

end TypstMarkup.Expression
