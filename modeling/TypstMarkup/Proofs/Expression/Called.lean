import TypstMarkup.Expression.Evaluate

/-!
Evaluation of names and of calls with one value. A call of a name evaluates the name first, then the
value, then the keyword arguments, each in what the one before leaves behind.
-/
namespace TypstMarkup.Expression

theorem run_bind {α β : Type} {s t : Surroundings} {first : Evaluating α}
    {next : α → Evaluating β} {a : α} (done : first.run s = .ok (a, t)) :
    (first >>= next).run s = (next a).run t := by
  rw [StateT.run_bind, done]
  rfl

def valueOf? (names : List (String × Value)) (id : String) : Option Value :=
  (names.find? fun entry => entry.1 == id).map Prod.snd

section

variable {s t u : Surroundings} {v callee : Value}

theorem run_name {id : String} (line : Nat) (noLoops : s.loops = [])
    (found : valueOf? s.names id = some v) : (evaluate (.name id line)).run s = .ok (v, s) := by
  obtain ⟨⟨key, w⟩, listed, rfl⟩ := Option.map_eq_some_iff.1 found
  have scopes : (s.loops ++ [s.names]).findSome?
      (fun names => names.find? fun entry => entry.1 == id) = some (key, w) := by
    simp [noLoops, listed]
  rw [evaluate, Evaluating.lookUp, run_bind (a := s) rfl]
  simp only [scopes]
  rfl

theorem run_evaluateItems_single {e : Expr} (unstarred : e.isStarred = false)
    (run : (evaluate e).run s = .ok (v, t)) : (evaluateItems [e]).run s = .ok ([v], t) := by
  rw [evaluateItems.eq_def]
  split
  · rename_i none
    cases none
  · rename_i starred
    cases starred
    cases unstarred
  · rename_i same
    cases same
    rw [run_bind run]
    rfl

/-- A call of a name with one value and keyword arguments. -/
theorem run_call {f : String} {e : Expr} {keywords : List Keyword}
    {settings : List (String × Value)} (noLoops : s.loops = [])
    (found : valueOf? s.names f = some callee) (unstarred : e.isStarred = false)
    (run : (evaluate e).run s = .ok (v, t))
    (given : (evaluateKeywords callee [] keywords).run t = .ok (settings, u)) (line place : Nat) :
    (evaluate (.call (.name f line) [e] keywords place)).run s =
      (applyTo u.registry callee ⟨[v], settings⟩).map (·, u) := by
  have applied (positional : List Value) : (do
        let keywords ← evaluateKeywords callee [] keywords
        applyTo (← get).registry callee ⟨positional, keywords⟩ : Evaluating Value).run t =
      (applyTo u.registry callee ⟨positional, settings⟩).map (·, u) := by
    rw [run_bind given, run_bind (a := u) rfl]
    cases applyTo u.registry callee ⟨positional, settings⟩ <;> rfl
  rw [evaluate, run_bind (run_name line noLoops found)]
  dsimp only
  split
  · rename_i starred
    cases starred
    cases unstarred
  · rw [run_bind (run_evaluateItems_single unstarred run)]
    exact applied [v]

end

end TypstMarkup.Expression
