import TypstMarkup.Proofs.Template.Constructor
import TypstMarkup.Proofs.Template.Rendered

/-!
The name that every splice calls. It stands for the constructor of finished source when rendering
starts, whatever else it may have been given to stand for, and for as long as no splice assigns to
it. From then on splices call what it has been assigned.
-/
namespace TypstMarkup

namespace Markup

/-- The constructor gives finished source, which has a plain text. -/
theorem plainText?_of_construct {r : Registry} {v out : Value} {settings : Context}
    (constructed : construct r v settings = .ok out) : out.plainText? = .ok out.plainText := by
  have formatted {out : Value} (formatted : format r v settings = .ok out) :
      out.plainText? = .ok out.plainText := by
    obtain ⟨text, -, rfl⟩ := map_eq_ok_iff.1 formatted
    rfl
  unfold construct at constructed
  split at constructed
  · cases constructed
    rfl
  · split at constructed
    · cases constructed
      rfl
    · exact formatted constructed
  · exact formatted constructed

end Markup

namespace Template

open Expression (Expr Keyword evaluate evaluateKeywords applyTo bound valueOf?
  behaves_evaluate behaves_evaluateKeywords run_call)

theorem valueOf?_initialNames (names : OrderedMap Value) :
    valueOf? (initialNames names) constructorName = some (.builtin .markup) :=
  OrderedMap.get?_insert_self names constructorName (.builtin .markup)

theorem valueOf?_initialNames_of_ne {names : OrderedMap Value} {id : String}
    (other : id ≠ constructorName) : valueOf? (initialNames names) id = names.get? id :=
  OrderedMap.get?_insert_of_ne names (.builtin .markup) other

section

variable {r : Markup.Registry} {names : OrderedMap Value} {segments : List Segment}
  {text : List Char} {reached : List (String × Value)}

/-- The reserved name always stands for something. -/
theorem Rendered.exists_callee (rendered : Rendered r (initialNames names) segments text reached) :
    ∃ callee, valueOf? reached constructorName = some callee := by
  obtain ⟨made, -, rfl⟩ := rendered.binds
  exact Expression.exists_valueOf?_bindAll (valueOf?_initialNames names) made

theorem Rendered.callee_eq (rendered : Rendered r (initialNames names) segments text reached)
    (free : ∀ s ∈ splices segments, constructorName ∉ bound s.call) :
    valueOf? reached constructorName = some (.builtin .markup) := by
  obtain ⟨made, own, rfl⟩ := rendered.binds
  -- Whatever has been bound since, a splice assigns to it.
  have different : ∀ b ∈ made, b.1 ≠ constructorName := by
    intro b member same
    obtain ⟨s, among, binds⟩ := own b member
    exact free s among (same ▸ binds)
  rw [Expression.valueOf?_bindAll_of_ne different, valueOf?_initialNames]

/-- A splice contributes the plain text of what the value of the reserved name returns. -/
theorem run_renderSegment_of_callee {s : Splice} {e : Expr} {keywords : List Keyword}
    {line place : Nat} {callee : Value}
    (called : s.call = .call (.name constructorName line) [e] keywords place)
    (unstarred : e.isStarred = false) (found : valueOf? reached constructorName = some callee)
    {v : Value} {around final : Expression.Surroundings} {settings : List (String × Value)}
    (evaluated : (evaluate e).run { names := reached, registry := r } = .ok (v, around))
    (given : (evaluateKeywords callee [] keywords).run around = .ok (settings, final)) :
    (renderSegment (.splice s)).run { names := reached, registry := r } = (do
      let out ← applyTo r callee ⟨[v], settings⟩
      let plain ← out.plainText?
      return (plain.toList, final)) := by
  have registry : final.registry = r := by
    have first := (behaves_evaluate e (List.Subset.refl _)).leads _ _ _ evaluated
    have rest :=
      (behaves_evaluateKeywords callee [] keywords (List.Subset.refl _)).leads _ _ _ given
    exact rest.1.registry.trans first.1.registry
  have run := run_call rfl found unstarred evaluated given line place
  rw [registry] at run
  rw [renderSegment, called, StateT.run_bind, run]
  cases applyTo r callee ⟨[v], settings⟩ with
  | error f => rfl
  | ok out =>
    change ((liftM out.plainText? : Expression.Evaluating String) >>= fun text =>
      pure text.toList).run final = out.plainText? >>= fun text => pure (text.toList, final)
    cases out.plainText? <;> rfl

end

/-- Whether a template consists of two splices that have a property, and the second contributes a
text. -/
def contributes (source : List Char) (names : OrderedMap Value) (fits : Splice → Splice → Bool)
    (text : List Char) : Bool :=
  match scan source with
  | .ok [.splice first, .splice second] =>
    match (renderSegment (.splice first)).run { names := initialNames names } with
    | .ok (_, after) =>
      fits first second &&
        ((renderSegment (.splice second)).run after).toOption.map Prod.fst == some text
    | .error _ => false
  | _ => false

theorem exists_of_contributes (source : List Char) (names : OrderedMap Value)
    (fits : Splice → Splice → Bool) (text : List Char)
    (holds : contributes source names fits text = true) :
    ∃ first second leading reached,
      ofSource? source = .ok ⟨source, [.splice first, .splice second]⟩ ∧
      Rendered .builtin (initialNames names) [.splice first] leading reached ∧
      fits first second = true ∧
      ((renderSegment (.splice second)).run { names := reached }).map Prod.fst = .ok text := by
  unfold contributes at holds
  split at holds
  · rename_i first second scanned
    split at holds
    · rename_i leading after run
      obtain ⟨made, -, rfl⟩ := run_renderSegment_binds run
      rw [Bool.and_eq_true] at holds
      obtain ⟨fitting, contributed⟩ := holds
      refine ⟨first, second, _, _, ofSource?_eq_ok_iff.2 ⟨_, scanned, rfl⟩,
        .splice run (.done _), fitting, ?_⟩
      revert contributed
      cases (renderSegment (.splice second)).run { names := _ } with
      | error f => exact fun contributed => by cases contributed
      | ok out =>
        exact fun contributed => congrArg Except.ok (by simpa [Except.toOption] using contributed)
    · cases holds
  · cases holds

/-- Whether an expression calls the reserved name with a text alone. -/
def callsReservedWith (text : String) : Expr → Bool
  | .call (.name f _) [.constant (.str s)] [] _ => f == constructorName && s == text
  | _ => false

theorem exists_call_of_callsReservedWith {text : String} {e : Expr}
    (holds : callsReservedWith text e = true) :
    ∃ line place, e = .call (.name constructorName line) [.constant (.str text)] [] place := by
  unfold callsReservedWith at holds
  split at holds
  · rename_i f line s place
    obtain ⟨rfl, rfl⟩ : f = constructorName ∧ s = text := by simpa using holds
    exact ⟨line, place, rfl⟩
  · cases holds

end Template

end TypstMarkup
