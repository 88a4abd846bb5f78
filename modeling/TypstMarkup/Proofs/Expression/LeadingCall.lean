import TypstMarkup.Proofs.Expression.Balance

/-!
Sources that begin with a name and an opening bracket. What stands behind the bracket that closes
it decides what is read: if nothing does, the whole expression is that one call, and if anything
does, the expression is no call of a name.
-/
namespace TypstMarkup.Expression

open Reader

def Expr.isName : Expr → Bool
  | .name _ _ => true
  | _ => false

/-- Whether an expression is a call of a name, and not of what a longer expression stands for. -/
def Expr.callsName : Expr → Bool
  | .call callee _ _ _ => callee.isName
  | _ => false

theorem not_ended_symbol (t : String) (line : Nat) (rest : List Lexeme) :
    ¬ Ended (⟨.symbol t, line⟩ :: rest) := by
  intro ended
  cases ended _ List.mem_cons_self

theorem not_ended_name (id : String) (line : Nat) (rest : List Lexeme) :
    ¬ Ended (⟨.name id, line⟩ :: rest) := by
  intro ended
  cases ended _ List.mem_cons_self

theorem ended_iff {s : List Lexeme} :
    (s.all fun l => l.token matches .lineEnd) = true ↔ Ended s := by
  rw [List.all_eq_true]
  refine forall_congr' fun l => ?_
  cases l with
  | mk token line => cases token <;> simp

/-- A reader that is given a first operand gives it back and takes nothing, or it makes something
else than a call of a name and does so because there is more to read. -/
def GoesOn (next : Expr → Reader Expr) : Prop :=
  ∀ e s e' s', (next e).run s = some (e', s') →
    (e' = e ∧ s' = s) ∨ (e'.callsName = false ∧ ¬ Ended s)

/-! ### After a first operand -/

/-- Members, arguments and indices are read from what is no name: they make no call of a name. -/
theorem run_trailers {fuel start : Nat} {e e' : Expr} {s s' : List Lexeme}
    (noName : e.isName = false) (run : (trailers fuel start e).run s = some (e', s')) :
    (e' = e ∧ s' = s) ∨ (e'.callsName = false ∧ ¬ Ended s) := by
  induction fuel generalizing e s with
  | zero => cases run
  | succ fuel ih =>
    -- What has been read so far is no name, so whatever else follows calls no name either.
    have further {e₁ : Expr} {s₁ : List Lexeme}
        (run₁ : (trailers fuel start e₁).run s₁ = some (e', s')) (noName₁ : e₁.isName = false)
        (noCall : e₁.callsName = false) : e'.callsName = false := by
      rcases ih noName₁ run₁ with ⟨rfl, -⟩ | ⟨other, -⟩
      · exact noCall
      · exact other
    rw [trailers] at run
    obtain ⟨line, s₀, same, run⟩ := run_bind_eq_some.1 run
    cases same
    obtain ⟨dot, s₁, take, run⟩ := run_bind_eq_some.1 run
    rcases run_takeSymbol take with ⟨rfl, line, rfl⟩ | ⟨rfl, rfl, -⟩
    · obtain ⟨_, s₂, -, run⟩ := run_bind_eq_some.1 run
      obtain ⟨member, s₃, -, run⟩ := run_bind_eq_some.1 run
      exact .inr ⟨further run rfl rfl, not_ended_symbol _ _ _⟩
    obtain ⟨group, s₂, take, run⟩ := run_bind_eq_some.1 run
    rcases run_takeSymbol take with ⟨rfl, line, rfl⟩ | ⟨rfl, rfl, -⟩
    · refine .inr ⟨?_, not_ended_symbol _ _ _⟩
      obtain ⟨empty, s₃, take, run⟩ := run_bind_eq_some.1 run
      cases empty with
      | true => exact further run rfl noName
      | false =>
        obtain ⟨found, s₄, -, run⟩ := run_bind_eq_some.1 run
        exact further run rfl noName
    obtain ⟨index, s₃, take, run⟩ := run_bind_eq_some.1 run
    rcases run_takeSymbol take with ⟨rfl, line, rfl⟩ | ⟨rfl, rfl, -⟩
    · refine .inr ⟨?_, not_ended_symbol _ _ _⟩
      obtain ⟨found, s₄, -, run⟩ := run_bind_eq_some.1 run
      obtain ⟨_, s₅, -, run⟩ := run_bind_eq_some.1 run
      split at run
      · exact further run rfl rfl
      · exact further run rfl rfl
    · cases run
      exact .inl ⟨rfl, rfl⟩

theorem run_takeOperator {operators : List (String × Operator)} {found : Option Operator}
    {s s' : List Lexeme} (run : (takeOperator operators).run s = some (found, s')) :
    (found = none ∧ s' = s) ∨ (found.isSome ∧ ¬ Ended s) := by
  match s with
  | ⟨.symbol t, line⟩ :: rest =>
    obtain ⟨seen, mid, same, runRest⟩ := run_bind_eq_some.1 run
    cases same
    simp only [List.head?_cons, Option.map_some] at runRest
    split at runRest
    · cases runRest
      exact .inr ⟨rfl, not_ended_symbol t line rest⟩
    · cases runRest
      exact .inl ⟨rfl, rfl⟩
  | [] | ⟨.name _, _⟩ :: _ | ⟨.number _, _⟩ :: _ | ⟨.text _, _⟩ :: _ | ⟨.bytes _, _⟩ :: _
  | ⟨.formatted _ _, _⟩ :: _ | ⟨.lineEnd, _⟩ :: _ => cases run; exact .inl ⟨rfl, rfl⟩

theorem run_takeComparison {found : Option CompareOperator} {s s' : List Lexeme}
    (run : takeComparison.run s = some (found, s')) :
    (found = none ∧ s' = s) ∨ (found.isSome ∧ ¬ Ended s) := by
  obtain ⟨seen, mid, same, run⟩ := run_bind_eq_some.1 run
  cases same
  split at run
  · cases run; exact .inr ⟨rfl, not_ended_name _ _ _⟩
  · cases run; exact .inr ⟨rfl, not_ended_name _ _ _⟩
  · cases run; exact .inr ⟨rfl, not_ended_name _ _ _⟩
  · cases run; exact .inr ⟨rfl, not_ended_name _ _ _⟩
  · split at run
    · cases run; exact .inr ⟨rfl, not_ended_symbol _ _ _⟩
    · cases run; exact .inl ⟨rfl, rfl⟩
  · cases run; exact .inl ⟨rfl, rfl⟩

theorem run_comparisons {fuel : Nat} {found : List (CompareOperator × Expr)} {s s' : List Lexeme}
    (run : (comparisons fuel).run s = some (found, s')) :
    (found = [] ∧ s' = s) ∨ (found ≠ [] ∧ ¬ Ended s) := by
  cases fuel with
  | zero => cases run
  | succ fuel =>
    rw [comparisons] at run
    obtain ⟨op, s₁, take, runRest⟩ := run_bind_eq_some.1 run
    rcases run_takeComparison take with ⟨rfl, rfl⟩ | ⟨some, more⟩
    · cases runRest
      exact .inl ⟨rfl, rfl⟩
    · obtain ⟨op, rfl⟩ := Option.isSome_iff_exists.1 some
      obtain ⟨e, s₂, -, runRest⟩ := run_bind_eq_some.1 runRest
      obtain ⟨rest, s₃, -, runRest⟩ := run_bind_eq_some.1 runRest
      cases runRest
      exact .inr ⟨List.cons_ne_nil _ _, more⟩

theorem run_others {separator : String} {operand : Reader Expr} {fuel : Nat} {found : List Expr}
    {s s' : List Lexeme} (run : (others separator operand fuel).run s = some (found, s')) :
    (found = [] ∧ s' = s) ∨ (found ≠ [] ∧ ¬ Ended s) := by
  cases fuel with
  | zero => cases run
  | succ fuel =>
    obtain ⟨taken, s₁, take, runRest⟩ := run_bind_eq_some.1 run
    rcases run_takeWord take with ⟨rfl, line, rfl⟩ | ⟨rfl, rfl, -⟩
    · obtain ⟨e, s₂, -, runRest⟩ := run_bind_eq_some.1 runRest
      obtain ⟨rest, s₃, -, runRest⟩ := run_bind_eq_some.1 runRest
      cases runRest
      exact .inr ⟨List.cons_ne_nil _ _, not_ended_name _ _ _⟩
    · cases runRest
      exact .inl ⟨rfl, rfl⟩

/-- Operands after the first one make an expression of their own kind, if there are any. -/
theorem goesOn_rest {α : Type} {more : Reader (List α)} {join : Expr → List α → Reader Expr}
    (reads : ∀ {s found s'}, more.run s = some (found, s') →
      (found = [] ∧ s' = s) ∨ (found ≠ [] ∧ ¬ Ended s))
    (alone : ∀ e, join e [] = pure e)
    (joined : ∀ e a rest, ∃ e', join e (a :: rest) = pure e' ∧ e'.callsName = false) :
    GoesOn (fun first => do join first (← more)) := by
  intro e s e' s' run
  obtain ⟨found, mid, runMore, runRest⟩ := run_bind_eq_some.1 run
  rcases reads runMore with ⟨rfl, rfl⟩ | ⟨filled, left⟩
  · rw [alone] at runRest
    cases runRest
    exact .inl ⟨rfl, rfl⟩
  · obtain ⟨a, rest, rfl⟩ := List.exists_cons_of_ne_nil filled
    obtain ⟨made, same, noCall⟩ := joined e a rest
    rw [same] at runRest
    cases runRest
    exact .inr ⟨noCall, left⟩

theorem goesOn_binaryRest (fuel level : Nat) (operators : List (String × Operator)) :
    GoesOn (binaryRest fuel level operators) := by
  induction fuel with
  | zero =>
    intro e s e' s' run
    cases run
  | succ fuel ih =>
    intro e s e' s' run
    rw [binaryRest] at run
    obtain ⟨found, s₁, take, runRest⟩ := run_bind_eq_some.1 run
    rcases run_takeOperator take with ⟨rfl, rfl⟩ | ⟨some, more⟩
    · cases runRest
      exact .inl ⟨rfl, rfl⟩
    · obtain ⟨op, rfl⟩ := Option.isSome_iff_exists.1 some
      obtain ⟨right, s₂, -, runRest⟩ := run_bind_eq_some.1 runRest
      refine .inr ⟨?_, more⟩
      rcases ih _ s₂ e' s' runRest with ⟨rfl, -⟩ | ⟨other, -⟩
      · rfl
      · exact other

theorem goesOn_power {exponent : Reader Expr} :
    GoesOn fun base => do
      if ← takeSymbol "**" then return .binary .pow base (← exponent) else return base := by
  intro e s e' s' run
  obtain ⟨stars, s₁, take, runRest⟩ := run_bind_eq_some.1 run
  rcases run_takeSymbol take with ⟨rfl, line, rfl⟩ | ⟨rfl, rfl, -⟩
  · obtain ⟨right, s₂, -, runRest⟩ := run_bind_eq_some.1 runRest
    cases runRest
    exact .inr ⟨rfl, not_ended_symbol _ _ _⟩
  · cases runRest
    exact .inl ⟨rfl, rfl⟩

theorem goesOn_conditional {test no : Reader Expr} :
    GoesOn fun yes => do
      if ← takeWord "if" then
        let test ← test
        word "else"
        return .conditional test yes (← no)
      else return yes := by
  intro e s e' s' run
  obtain ⟨conditional, s₁, take, runRest⟩ := run_bind_eq_some.1 run
  rcases run_takeWord take with ⟨rfl, line, rfl⟩ | ⟨rfl, rfl, -⟩
  · obtain ⟨test, s₂, -, runRest⟩ := run_bind_eq_some.1 runRest
    obtain ⟨_, s₃, -, runRest⟩ := run_bind_eq_some.1 runRest
    obtain ⟨no, s₄, -, runRest⟩ := run_bind_eq_some.1 runRest
    cases runRest
    exact .inr ⟨rfl, not_ended_name _ _ _⟩
  · cases runRest
    exact .inl ⟨rfl, rfl⟩

/-! ### From the leading name on -/

section

variable (id : String) (start bracketLine : Nat) (rest : List Lexeme)

/-- A reader that is given a name and a bracket reads the call, if nothing but line ends stands
behind its closing bracket, and otherwise no call of a name. -/
def ReadsCall (r : Reader Expr) : Prop :=
  ∀ e s', r.run (⟨.name id, start⟩ :: ⟨.symbol "(", bracketLine⟩ :: rest) = some (e, s') →
    ∃ ends, behind [")"] rest = some ends ∧
      ((∃ arguments keywords, e = .call (.name id start) arguments keywords start ∧ s' = ends) ∨
        (e.callsName = false ∧ ¬ Ended ends))

variable {id start bracketLine rest}

theorem ReadsCall.bind {r : Reader Expr} {next : Expr → Reader Expr}
    (first : ReadsCall id start bracketLine rest r) (goesOn : GoesOn next) :
    ReadsCall id start bracketLine rest (r >>= next) := by
  intro e s' run
  obtain ⟨e₁, s₁, runFirst, run⟩ := run_bind_eq_some.1 run
  obtain ⟨ends, closed, shape⟩ := first e₁ s₁ runFirst
  refine ⟨ends, closed, ?_⟩
  rcases shape with ⟨arguments, keywords, rfl, rfl⟩ | ⟨other, more⟩
  · rcases goesOn _ _ e s' run with ⟨rfl, rfl⟩ | different
    · exact .inl ⟨arguments, keywords, rfl, rfl⟩
    · exact .inr different
  · rcases goesOn _ _ e s' run with ⟨rfl, -⟩ | ⟨other, -⟩
    · exact .inr ⟨other, more⟩
    · exact .inr ⟨other, more⟩

/-- A name is no symbol, so a reader that looks for one goes on without it. -/
theorem ReadsCall.takeSymbol {t : String} {yes no : Reader Expr}
    (reads : ReadsCall id start bracketLine rest no) :
    ReadsCall id start bracketLine rest (do if ← Reader.takeSymbol t then yes else no) := by
  intro e s' run
  obtain ⟨found, s₁, take, run⟩ := run_bind_eq_some.1 run
  rcases run_takeSymbol take with ⟨-, line, same⟩ | ⟨rfl, rfl, -⟩
  · cases same
  · exact reads e s' run

theorem ReadsCall.takeWord {word : String} {yes no : Reader Expr} (other : id ≠ word)
    (reads : ReadsCall id start bracketLine rest no) :
    ReadsCall id start bracketLine rest (do if ← Reader.takeWord word then yes else no) := by
  intro e s' run
  obtain ⟨found, s₁, take, run⟩ := run_bind_eq_some.1 run
  rcases run_takeWord take with ⟨-, line, same⟩ | ⟨rfl, rfl, -⟩
  · cases same
    exact absurd rfl other
  · exact reads e s' run

theorem ReadsCall.line {next : Nat → Reader Expr}
    (reads : ReadsCall id start bracketLine rest (next start)) :
    ReadsCall id start bracketLine rest (do next (← Reader.line)) := by
  intro e s' run
  obtain ⟨line, s₁, same, runRest⟩ := run_bind_eq_some.1 run
  cases same
  exact reads e s' runRest

theorem readsCall_failure : ReadsCall id start bracketLine rest failure := by
  intro e s' run
  cases run

theorem ne_of_isKeyword {word : String} (name : isKeyword id = false)
    (keyword : isKeyword word = true) : id ≠ word := by
  rintro rfl
  rw [name] at keyword
  cases keyword

theorem run_atom_name {fuel : Nat} {e : Expr} {s s' : List Lexeme} (name : isKeyword id = false)
    (run : (atom fuel).run (⟨.name id, start⟩ :: s) = some (e, s')) :
    e = .name id start ∧ s' = s := by
  cases fuel with
  | zero => cases run
  | succ fuel =>
    have other {word : String} (keyword : isKeyword word = true) : ¬ (id == word) = true := by
      rw [beq_iff_eq]
      exact ne_of_isKeyword name keyword
    rw [atom] at run
    obtain ⟨line, s₁, same, runRest⟩ := run_bind_eq_some.1 run
    cases same
    obtain ⟨seen, s₂, same, runRest⟩ := run_bind_eq_some.1 runRest
    cases same
    obtain ⟨_, s₃, same, runRest⟩ := run_bind_eq_some.1 runRest
    cases same
    rw [if_neg (other (by decide)), if_neg (other (by decide)), if_neg (other (by decide))]
      at runRest
    obtain ⟨_, s₄, runGuard, runRest⟩ := run_bind_eq_some.1 runRest
    obtain ⟨-, rfl⟩ := run_guard runGuard
    cases runRest
    exact ⟨rfl, rfl⟩

/-- The brackets behind the name are read to their end, and then whatever follows. -/
theorem readsCall_primary (name : isKeyword id = false) (fuel : Nat) :
    ReadsCall id start bracketLine rest (primary fuel) := by
  cases fuel with
  | zero => exact readsCall_failure
  | succ fuel =>
    rw [primary]
    refine .line fun e s' run => ?_
    obtain ⟨callee, s₁, runAtom, runTrailers⟩ := run_bind_eq_some.1 run
    obtain ⟨rfl, rfl⟩ := run_atom_name name runAtom
    cases fuel with
    | zero => cases runTrailers
    | succ fuel =>
      have further {arguments : List Expr} {keywords : List Keyword} {ends : List Lexeme}
          (closed : behind [")"] rest = some ends)
          (run : (trailers fuel start (.call (.name id start) arguments keywords start)).run ends =
            some (e, s')) : ∃ ends, behind [")"] rest = some ends ∧
              ((∃ arguments keywords,
                e = .call (.name id start) arguments keywords start ∧ s' = ends) ∨
                (e.callsName = false ∧ ¬ Ended ends)) := by
        refine ⟨ends, closed, ?_⟩
        rcases run_trailers rfl run with ⟨rfl, rfl⟩ | different
        · exact .inl ⟨arguments, keywords, rfl, rfl⟩
        · exact .inr different
      rw [trailers] at runTrailers
      obtain ⟨line, s₂, same, runRest⟩ := run_bind_eq_some.1 runTrailers
      cases same
      obtain ⟨dot, s₃, take, runRest⟩ := run_bind_eq_some.1 runRest
      rcases run_takeSymbol take with ⟨-, line, same⟩ | ⟨rfl, rfl, -⟩
      · simp at same
      obtain ⟨group, s₄, take, runRest⟩ := run_bind_eq_some.1 runRest
      rcases run_takeSymbol take with ⟨rfl, line, same⟩ | ⟨-, -, other⟩
      · cases same
        obtain ⟨empty, s₅, take, runRest⟩ := run_bind_eq_some.1 runRest
        rcases run_takeSymbol take with ⟨rfl, line, rfl⟩ | ⟨rfl, rfl, -⟩
        · exact further ((behind_closing round_closes [] line s₅).trans (behind_nil s₅)) runRest
        · obtain ⟨found, s₆, runArguments, runRest⟩ := run_bind_eq_some.1 runRest
          have closed := (balancing fuel).arguments _ [] _ found s₆ runArguments
          exact further (closed.trans (behind_nil s₆)) runRest
      · exact absurd rfl (other _ _)

theorem readsCall_factor (name : isKeyword id = false) (fuel : Nat) :
    ReadsCall id start bracketLine rest (factor fuel) := by
  cases fuel with
  | zero => exact readsCall_failure
  | succ fuel =>
    rw [factor]
    refine .takeSymbol (.takeSymbol (.takeSymbol (.line ?_)))
    refine .takeWord (ne_of_isKeyword name (by decide)) ?_
    exact (readsCall_primary name fuel).bind goesOn_power

theorem readsCall_binary (name : isKeyword id = false) (fuel level : Nat) :
    ReadsCall id start bracketLine rest (binary fuel level) := by
  induction fuel generalizing level with
  | zero => exact readsCall_failure
  | succ fuel ih =>
    rw [binary]
    split
    · exact (ih (level + 1)).bind (goesOn_binaryRest fuel level _)
    · exact readsCall_factor name fuel

theorem readsCall_inversion (name : isKeyword id = false) (fuel : Nat) :
    ReadsCall id start bracketLine rest (inversion fuel) := by
  cases fuel with
  | zero => exact readsCall_failure
  | succ fuel =>
    rw [inversion]
    refine .takeWord (ne_of_isKeyword name (by decide)) ?_
    refine (readsCall_binary name fuel 0).bind (goesOn_rest run_comparisons (fun _ => rfl) ?_)
    exact fun _ _ _ => ⟨_, rfl, rfl⟩

theorem readsCall_conjunction (name : isKeyword id = false) (fuel : Nat) :
    ReadsCall id start bracketLine rest (conjunction fuel) := by
  cases fuel with
  | zero => exact readsCall_failure
  | succ fuel =>
    rw [conjunction]
    refine (readsCall_inversion name fuel).bind (goesOn_rest run_others (fun _ => rfl) ?_)
    exact fun _ _ _ => ⟨_, rfl, rfl⟩

theorem readsCall_disjunction (name : isKeyword id = false) (fuel : Nat) :
    ReadsCall id start bracketLine rest (disjunction fuel) := by
  cases fuel with
  | zero => exact readsCall_failure
  | succ fuel =>
    rw [disjunction]
    refine (readsCall_conjunction name fuel).bind (goesOn_rest run_others (fun _ => rfl) ?_)
    exact fun _ _ _ => ⟨_, rfl, rfl⟩

theorem readsCall_expression (name : isKeyword id = false) (fuel : Nat) :
    ReadsCall id start bracketLine rest (expression fuel) := by
  cases fuel with
  | zero => exact readsCall_failure
  | succ fuel =>
    rw [expression]
    refine .line (.takeWord (ne_of_isKeyword name (by decide)) ?_)
    exact (readsCall_disjunction name fuel).bind goesOn_conditional

/-- Items with commas between them: the first one alone, or a comma stands behind it. -/
theorem run_separated {α : Type} {item : Reader α} {ends : Reader Bool} {fuel : Nat}
    {items : List α} {trailing : Bool} {s s' : List Lexeme}
    (run : (separated item ends fuel).run s = some ((items, trailing), s')) :
    ∃ a mid, item.run s = some (a, mid) ∧
      ((items = [a] ∧ trailing = false ∧ s' = mid) ∨
        ((items = [a] ∧ trailing = true ∨ ∃ b others, items = a :: b :: others) ∧
          ∃ line after, mid = ⟨.symbol ",", line⟩ :: after)) := by
  induction fuel generalizing items trailing s with
  | zero => cases run
  | succ fuel ih =>
    obtain ⟨a, s₁, runItem, runRest⟩ := run_bind_eq_some.1 run
    refine ⟨a, s₁, runItem, ?_⟩
    obtain ⟨comma, s₂, take, runChoice⟩ := run_bind_eq_some.1 runRest
    rcases run_takeSymbol take with ⟨rfl, line, rfl⟩ | ⟨rfl, rfl, -⟩
    · refine .inr ⟨?_, line, s₂, rfl⟩
      obtain ⟨ended, s₃, -, runMore⟩ := run_bind_eq_some.1 runChoice
      cases ended with
      | true =>
        cases runMore
        exact .inl ⟨rfl, rfl⟩
      | false =>
        obtain ⟨⟨more, trailing⟩, s₄, runMore, runEnd⟩ := run_bind_eq_some.1 runMore
        cases runEnd
        obtain ⟨b, _, -, ⟨rfl, -⟩ | ⟨⟨rfl, -⟩ | ⟨c, others, rfl⟩, -⟩⟩ := ih runMore
        · exact .inr ⟨b, [], rfl⟩
        · exact .inr ⟨b, [], rfl⟩
        · exact .inr ⟨b, c :: others, rfl⟩
    · cases runChoice
      exact .inl ⟨rfl, rfl, rfl⟩

/-- A source that begins with a name and a bracket is the call of that name if nothing follows the
bracket that closes it, and no call of a name otherwise. -/
theorem run_expressions (name : isKeyword id = false) {fuel : Nat} {e : Expr} {s' : List Lexeme}
    (run : (expressions fuel).run (⟨.name id, start⟩ :: ⟨.symbol "(", bracketLine⟩ :: rest) =
      some (e, s')) :
    ∃ ends, behind [")"] rest = some ends ∧
      (((∃ arguments keywords, e = .call (.name id start) arguments keywords start) ∧ Ended ends) ∨
        (e.callsName = false ∧ ¬ Ended ends)) := by
  obtain ⟨line, s₁, same, runRest⟩ := run_bind_eq_some.1 run
  cases same
  obtain ⟨⟨items, trailing⟩, s₂, runItems, runRest⟩ := run_bind_eq_some.1 runRest
  obtain ⟨left, s₃, same, runRest⟩ := run_bind_eq_some.1 runRest
  cases same
  obtain ⟨_, s₄, runGuard, runResult⟩ := run_bind_eq_some.1 runRest
  obtain ⟨ended, rfl⟩ := run_guard runGuard
  obtain ⟨first, mid, runFirst, alone | ⟨several, line, after, rfl⟩⟩ := run_separated runItems
  · obtain ⟨rfl, rfl, rfl⟩ := alone
    cases runResult
    obtain ⟨ends, closed, shape⟩ := readsCall_expression name fuel _ _ runFirst
    refine ⟨ends, closed, ?_⟩
    rcases shape with ⟨arguments, keywords, rfl, rfl⟩ | different
    · exact .inl ⟨⟨arguments, keywords, rfl⟩, ended_iff.1 ended⟩
    · exact .inr different
  · -- A comma follows, and the whole is a tuple.
    obtain ⟨ends, closed, shape⟩ := readsCall_expression name fuel _ _ runFirst
    have more : ¬ Ended ends := by
      rcases shape with ⟨_, _, -, rfl⟩ | ⟨-, more⟩
      · exact not_ended_symbol _ _ _
      · exact more
    refine ⟨ends, closed, .inr ⟨?_, more⟩⟩
    rcases several with ⟨rfl, rfl⟩ | ⟨b, others, rfl⟩
    · cases runResult
      rfl
    · cases runResult
      rfl

end

end TypstMarkup.Expression
