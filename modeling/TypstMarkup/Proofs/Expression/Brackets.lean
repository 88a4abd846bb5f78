import Mathlib.Data.Option.Basic
import TypstMarkup.Expression.Parser

/-!
Brackets of lexemes, and how readers take them. A reader moves from some awaited brackets to others
if what stands behind them is the same before and after it; most readers keep them, since they take
a bracket only together with the one that closes it. Nothing is said about readers that fail.
-/
namespace TypstMarkup.Expression

/-- What stands behind closing brackets that are awaited, the innermost one first. -/
def behind : List String → List Lexeme → Option (List Lexeme)
  | [], rest => some rest
  | _ :: _, [] => none
  | close :: outer, l :: rest =>
    match l.token with
    | .symbol s =>
      match closingBracket? s with
      | some inner => behind (inner :: close :: outer) rest
      | none =>
        if isClosing s then
          if s = close then behind outer rest else none
        else behind (close :: outer) rest
    | _ => behind (close :: outer) rest

/-- A symbol that opens and closes nothing. -/
def IsPlain (s : String) : Prop := closingBracket? s = none ∧ isClosing s = false

instance (s : String) : Decidable (IsPlain s) :=
  inferInstanceAs (Decidable (closingBracket? s = none ∧ isClosing s = false))

theorem behind_nil (rest : List Lexeme) : behind [] rest = some rest := by
  cases rest <;> rfl

theorem behind_noSymbol {token : Token} (noSymbol : ∀ s, token ≠ .symbol s) (close : String)
    (outer : List String) (line : Nat) (rest : List Lexeme) :
    behind (close :: outer) (⟨token, line⟩ :: rest) = behind (close :: outer) rest := by
  cases token with
  | symbol s => exact absurd rfl (noSymbol s)
  | _ => rfl

theorem behind_plain {s : String} (plain : IsPlain s) (close : String) (outer : List String)
    (line : Nat) (rest : List Lexeme) :
    behind (close :: outer) (⟨.symbol s, line⟩ :: rest) = behind (close :: outer) rest := by
  simp [behind, plain.1, plain.2]

theorem behind_opening {s inner : String} (opens : closingBracket? s = some inner) (close : String)
    (outer : List String) (line : Nat) (rest : List Lexeme) :
    behind (close :: outer) (⟨.symbol s, line⟩ :: rest) =
      behind (inner :: close :: outer) rest := by
  simp [behind, opens]

theorem round_opens : closingBracket? "(" = some ")" := rfl

theorem square_opens : closingBracket? "[" = some "]" := rfl

theorem curly_opens : closingBracket? "\x7b" = some "\x7d" := rfl

theorem round_closes : isClosing ")" = true := rfl

theorem square_closes : isClosing "]" = true := rfl

theorem curly_closes : isClosing "\x7d" = true := rfl

theorem closingBracket?_of_isClosing {s : String} (closes : isClosing s = true) :
    closingBracket? s = none := by
  have cases : (s = ")" ∨ s = "]") ∨ s = "\x7d" := by simpa [isClosing] using closes
  rcases cases with (rfl | rfl) | rfl <;> decide

theorem behind_closing {close : String} (closes : isClosing close = true) (outer : List String)
    (line : Nat) (rest : List Lexeme) :
    behind (close :: outer) (⟨.symbol close, line⟩ :: rest) = behind outer rest := by
  simp [behind, closes, closingBracket?_of_isClosing closes]

/-- Only ends of lines are left. -/
def Ended (s : List Lexeme) : Prop := ∀ l ∈ s, l.token = .lineEnd

/-- What is awaited at the bottom is closed last, and then only line ends are left. -/
def ClosesLast (brackets : List String) (lexemes : List Lexeme) : Prop :=
  ∃ ends, behind brackets lexemes = some ends ∧ Ended ends

theorem closesLast_noSymbol {brackets : List String} {token : Token} {line : Nat}
    {lexemes : List Lexeme} (noSymbol : ∀ s, token ≠ .symbol s) (filled : brackets ≠ [])
    (later : ClosesLast brackets lexemes) : ClosesLast brackets (⟨token, line⟩ :: lexemes) := by
  obtain ⟨close, outer, rfl⟩ := List.exists_cons_of_ne_nil filled
  unfold ClosesLast
  rwa [behind_noSymbol noSymbol]

theorem closesLast_plain {brackets : List String} {s : String} {line : Nat}
    {lexemes : List Lexeme} (plain : IsPlain s) (filled : brackets ≠ [])
    (later : ClosesLast brackets lexemes) : ClosesLast brackets (⟨.symbol s, line⟩ :: lexemes) := by
  obtain ⟨close, outer, rfl⟩ := List.exists_cons_of_ne_nil filled
  unfold ClosesLast
  rwa [behind_plain plain]

theorem closesLast_opening {brackets : List String} {s close : String} {line : Nat}
    {lexemes : List Lexeme} (opens : closingBracket? s = some close) (filled : brackets ≠ [])
    (later : ClosesLast (close :: brackets) lexemes) :
    ClosesLast brackets (⟨.symbol s, line⟩ :: lexemes) := by
  obtain ⟨top, outer, rfl⟩ := List.exists_cons_of_ne_nil filled
  unfold ClosesLast
  rwa [behind_opening opens]

theorem closesLast_closing {brackets : List String} {s : String} {line : Nat}
    {lexemes : List Lexeme} (closes : isClosing s = true) (later : ClosesLast brackets lexemes) :
    ClosesLast (s :: brackets) (⟨.symbol s, line⟩ :: lexemes) := by
  unfold ClosesLast
  rwa [behind_closing closes]

/-! ### Readers -/

/-- A reader takes its lexemes from awaited brackets to those that are awaited after it. -/
def Moves {α : Type} (before after : List String) (r : Reader α) : Prop :=
  ∀ s a s', r.run s = some (a, s') → behind before s = behind after s'

/-- A reader leaves the awaited brackets as they are. -/
def Keeps {α : Type} (r : Reader α) : Prop :=
  ∀ close outer, Moves (close :: outer) (close :: outer) r

/-- A reader takes its lexemes to a closing bracket, and that bracket. -/
def Closes {α : Type} (close : String) (r : Reader α) : Prop :=
  ∀ outer, Moves (close :: outer) outer r

theorem run_bind_eq_some {α β : Type} {r : Reader α} {f : α → Reader β} {s s' : List Lexeme}
    {b : β} :
    (r >>= f).run s = some (b, s') ↔
      ∃ a mid, r.run s = some (a, mid) ∧ (f a).run mid = some (b, s') := by
  rw [StateT.run_bind]
  cases r.run s with
  | none => simp
  | some pair =>
    obtain ⟨a, mid⟩ := pair
    constructor
    · intro run
      exact ⟨a, mid, rfl, run⟩
    · rintro ⟨a', mid', same, run⟩
      cases same
      exact run

theorem run_guard {P : Prop} [Decidable P] {s s' : List Lexeme} {u : Unit}
    (run : (guard P : Reader Unit).run s = some (u, s')) : P ∧ s' = s := by
  unfold guard at run
  split at run
  · cases run
    exact ⟨‹P›, rfl⟩
  · cases run

namespace Moves

variable {α β : Type} {before between after : List String}

theorem bind {r : Reader α} {f : α → Reader β} (first : Moves before between r)
    (next : ∀ a, Moves between after (f a)) : Moves before after (r >>= f) := by
  intro s b s' run
  obtain ⟨a, mid, runFirst, runNext⟩ := run_bind_eq_some.1 run
  rw [first s a mid runFirst]
  exact next a mid b s' runNext

theorem pure (a : α) : Moves before before (pure a : Reader α) := by
  intro s b s' run
  cases run
  rfl

theorem failure : Moves before after (failure : Reader α) := by
  intro s a s' run
  cases run

theorem ite {P : Prop} [Decidable P] {r t : Reader α} (yes : Moves before after r)
    (no : Moves before after t) : Moves before after (if P then r else t) := by
  split
  · exact yes
  · exact no

theorem guarded (P : Prop) [Decidable P] : Moves before before (guard P : Reader Unit) := by
  intro s u s' run
  rw [(run_guard run).2]

theorem look {f : List Lexeme → Reader α}
    (next : ∀ s a s', (f s).run s = some (a, s') → behind before s = behind after s') :
    Moves before after (get >>= f) :=
  fun s => next s

/-- A reader that has looked at the lexemes goes on behind those it wants. -/
theorem set {f : PUnit → Reader α} {s rest s' : List Lexeme} {a : α}
    (run : (set rest >>= f).run s = some (a, s')) (step : behind before s = behind between rest)
    (next : Moves between after (f ⟨⟩)) : behind before s = behind after s' := by
  rw [step]
  exact next rest a s' run

theorem lifted (x : Option α) : Moves before before (liftM x : Reader α) := by
  intro s a s' run
  cases x with
  | none => cases run
  | some a => cases run; rfl

theorem mapM {f : α → Reader β} (l : List α) (each : ∀ a ∈ l, Moves before before (f a)) :
    Moves before before (l.mapM f) := by
  induction l with
  | nil => exact pure []
  | cons a l ih =>
    rw [List.mapM_cons]
    refine (each a (by simp)).bind fun b => ?_
    refine (ih fun c member => each c (List.mem_cons_of_mem a member)).bind fun rest => ?_
    exact pure (b :: rest)

end Moves

/-! ### Reading one lexeme -/

open Reader

section

variable {close : String} {outer before between after : List String} {s s' : List Lexeme}
  {found : Bool}

theorem run_isSymbol {t : String} (run : (isSymbol t).run s = some (found, s')) :
    s' = s ∧ (found = true ↔ ∃ line rest, s = ⟨.symbol t, line⟩ :: rest) := by
  obtain ⟨seen, mid, same, run⟩ := run_bind_eq_some.1 run
  cases same
  match s with
  | [] => cases run; simp
  | ⟨.symbol u, line⟩ :: rest => cases run; simp
  | ⟨.name _, _⟩ :: _ | ⟨.number _, _⟩ :: _ | ⟨.text _, _⟩ :: _ | ⟨.bytes _, _⟩ :: _
  | ⟨.formatted _ _, _⟩ :: _ | ⟨.lineEnd, _⟩ :: _ => cases run; simp

theorem run_isWord {word : String} (run : (isWord word).run s = some (found, s')) :
    s' = s ∧ (found = true ↔ ∃ line rest, s = ⟨.name word, line⟩ :: rest) := by
  obtain ⟨seen, mid, same, run⟩ := run_bind_eq_some.1 run
  cases same
  match s with
  | [] => cases run; simp
  | ⟨.name id, line⟩ :: rest => cases run; simp
  | ⟨.symbol _, _⟩ :: _ | ⟨.number _, _⟩ :: _ | ⟨.text _, _⟩ :: _ | ⟨.bytes _, _⟩ :: _
  | ⟨.formatted _ _, _⟩ :: _ | ⟨.lineEnd, _⟩ :: _ => cases run; simp

theorem run_takeSymbol {t : String} (run : (takeSymbol t).run s = some (found, s')) :
    (found = true ∧ ∃ line, s = ⟨.symbol t, line⟩ :: s') ∨
      (found = false ∧ s' = s ∧ ∀ line rest, s ≠ ⟨.symbol t, line⟩ :: rest) := by
  obtain ⟨seen, mid, look, run⟩ := run_bind_eq_some.1 run
  obtain ⟨rfl, next⟩ := run_isSymbol look
  cases seen with
  | true =>
    obtain ⟨line, rest, rfl⟩ := next.1 rfl
    cases run
    exact .inl ⟨rfl, line, rfl⟩
  | false =>
    cases run
    refine .inr ⟨rfl, rfl, fun line rest same => ?_⟩
    cases next.2 ⟨line, rest, same⟩

theorem run_takeWord {word : String} (run : (takeWord word).run s = some (found, s')) :
    (found = true ∧ ∃ line, s = ⟨.name word, line⟩ :: s') ∨
      (found = false ∧ s' = s ∧ ∀ line rest, s ≠ ⟨.name word, line⟩ :: rest) := by
  obtain ⟨seen, mid, look, run⟩ := run_bind_eq_some.1 run
  obtain ⟨rfl, next⟩ := run_isWord look
  cases seen with
  | true =>
    obtain ⟨line, rest, rfl⟩ := next.1 rfl
    cases run
    exact .inl ⟨rfl, line, rfl⟩
  | false =>
    cases run
    refine .inr ⟨rfl, rfl, fun line rest same => ?_⟩
    cases next.2 ⟨line, rest, same⟩

/-- A choice by the next symbol; `step` says what becomes of the awaited brackets if it is taken. -/
theorem Moves.takeSymbol {α : Type} {t : String} {yes no : Reader α}
    (step : ∀ line rest, behind before (⟨.symbol t, line⟩ :: rest) = behind between rest)
    (taken : Moves between after yes) (left : Moves before after no) :
    Moves before after (do if ← Reader.takeSymbol t then yes else no) := by
  intro s a s' run
  obtain ⟨found, mid, runTake, runRest⟩ := run_bind_eq_some.1 run
  rcases run_takeSymbol runTake with ⟨rfl, line, rfl⟩ | ⟨rfl, rfl, -⟩
  · rw [step]
    exact taken mid a s' runRest
  · exact left mid a s' runRest

theorem Moves.symbol {t : String}
    (step : ∀ line rest, behind before (⟨.symbol t, line⟩ :: rest) = behind between rest) :
    Moves before between (symbol t) := by
  intro s a s' run
  obtain ⟨found, mid, runTake, runRest⟩ := run_bind_eq_some.1 run
  rcases run_takeSymbol runTake with ⟨rfl, line, rfl⟩ | ⟨rfl, rfl, -⟩
  · cases runRest
    exact step line s'
  · cases runRest

theorem closes_symbol (closes : isClosing close = true) : Closes close (symbol close) :=
  fun outer => .symbol (behind_closing closes outer)

theorem keeps_symbol {t : String} (plain : IsPlain t) : Keeps (symbol t) :=
  fun close outer => .symbol (behind_plain plain close outer)

theorem keeps_takeSymbol {t : String} (plain : IsPlain t) : Keeps (takeSymbol t) := by
  intro close outer s found s' run
  rcases run_takeSymbol run with ⟨-, line, rfl⟩ | ⟨-, rfl, -⟩
  · exact behind_plain plain close outer line s'
  · rfl

theorem keeps_isSymbol (t : String) : Keeps (isSymbol t) := by
  intro close outer s found s' run
  rw [(run_isSymbol run).1]

theorem keeps_isWord (word : String) : Keeps (isWord word) := by
  intro close outer s found s' run
  rw [(run_isWord run).1]

theorem keeps_takeWord (word : String) : Keeps (takeWord word) := by
  intro close outer s found s' run
  rcases run_takeWord run with ⟨-, line, rfl⟩ | ⟨-, rfl, -⟩
  · rfl
  · rfl

theorem keeps_word (word : String) : Keeps (Reader.word word) := fun close outer =>
  (keeps_takeWord word close outer).bind fun found => .guarded (found = true)

theorem keeps_line : Keeps line := fun _ _ => .look fun _ _ _ run => by cases run; rfl

theorem keeps_name : Keeps name := by
  intro close outer
  refine .look fun s id s' run => ?_
  split at run
  · obtain ⟨_, mid, runGuard, run⟩ := run_bind_eq_some.1 run
    cases run
    rfl
  · cases run

theorem keeps_startsAssignment : Keeps startsAssignment := by
  intro close outer
  refine .look fun s found s' run => ?_
  split at run <;> (cases run; rfl)

theorem keeps_startsClause : Keeps startsClause := fun close outer =>
  (keeps_isWord "for" close outer).bind fun _ =>
    (keeps_isWord "async" close outer).bind fun _ => .pure _

theorem keeps_atClosing : Keeps atClosing := by
  intro close outer
  refine .look fun s found s' run => ?_
  split at run <;> (cases run; rfl)

/-- Lexemes that are no symbols neither open nor close anything. -/
theorem behind_dropWhile {drops : Lexeme → Bool}
    (noSymbol : ∀ l, drops l = true → ∀ t, l.token ≠ .symbol t) (close : String)
    (outer : List String) (s : List Lexeme) :
    behind (close :: outer) (s.dropWhile drops) = behind (close :: outer) s := by
  induction s with
  | nil => rfl
  | cons l rest ih =>
    rw [List.dropWhile_cons]
    by_cases dropped : drops l = true
    · rw [if_pos dropped, ih, behind_noSymbol (noSymbol l dropped)]
    · rw [if_neg dropped]

theorem keeps_adjacentTexts : Keeps adjacentTexts := by
  intro close outer
  refine .look fun s found s' run => ?_
  cases run
  refine (behind_dropWhile (fun l dropped t same => ?_) close outer s).symm
  simp [same] at dropped

theorem keeps_takeOperator {operators : List (String × Operator)}
    (plain : ∀ entry ∈ operators, IsPlain entry.1) : Keeps (takeOperator operators) := by
  intro close outer
  refine .look fun s found s' run => ?_
  match s with
  | [] => cases run; rfl
  | ⟨.symbol t, line⟩ :: rest =>
    simp only [List.head?_cons, Option.map_some] at run
    split at run
    · rename_i sign op known
      cases run
      have same := List.find?_some known
      simp only [beq_iff_eq] at same
      exact behind_plain (same ▸ plain _ (List.mem_of_find?_eq_some known)) close outer line rest
    · cases run
      rfl
  | ⟨.name _, _⟩ :: _ | ⟨.number _, _⟩ :: _ | ⟨.text _, _⟩ :: _ | ⟨.bytes _, _⟩ :: _
  | ⟨.formatted _ _, _⟩ :: _ | ⟨.lineEnd, _⟩ :: _ => cases run; rfl

theorem keeps_takeComparison : Keeps takeComparison := by
  intro close outer
  refine .look fun s found s' run => ?_
  split at run
  · cases run; rfl
  · cases run; rfl
  · cases run; rfl
  · cases run; rfl
  · rename_i t line rest
    split at run
    · rename_i sign op known
      cases run
      have same := List.find?_some known
      simp only [beq_iff_eq] at same
      have plain : ∀ entry ∈ comparisonSigns, IsPlain entry.1 := by decide
      exact behind_plain (same ▸ plain _ (List.mem_of_find?_eq_some known)) close outer line _
    · cases run
      rfl
  · cases run
    rfl

end

/-! ### Repeated reading -/

section

variable {α : Type} {item : Reader α}

theorem keeps_separated {ends : Reader Bool} (keepsItem : Keeps item) (keepsEnds : Keeps ends)
    (fuel : Nat) : Keeps (separated item ends fuel) := by
  induction fuel with
  | zero => exact fun close outer => .failure
  | succ fuel ih =>
    intro close outer
    refine (keepsItem close outer).bind fun a => ?_
    refine (keeps_takeSymbol (by decide) close outer).bind fun comma => .ite ?_ (.pure _)
    refine (keepsEnds close outer).bind fun ended => .ite (.pure _) ?_
    exact (ih close outer).bind fun more => .pure _

theorem closes_untilClosing {close : String} (closes : isClosing close = true)
    (keepsItem : Keeps item) (fuel : Nat) : Closes close (untilClosing item close fuel) := by
  intro outer
  refine (keeps_separated keepsItem (keeps_isSymbol close) fuel close outer).bind fun found => ?_
  exact (closes_symbol closes outer).bind fun _ => .pure _

theorem keeps_others {operand : Reader Expr} (keepsOperand : Keeps operand) (separator : String)
    (fuel : Nat) : Keeps (others separator operand fuel) := by
  induction fuel with
  | zero => exact fun close outer => .failure
  | succ fuel ih =>
    intro close outer
    refine (keeps_takeWord separator close outer).bind fun found => .ite ?_ (.pure _)
    refine (keepsOperand close outer).bind fun e => ?_
    exact (ih close outer).bind fun rest => .pure _

theorem keeps_given (isLeftOut : Bool) (keepsItem : Keeps item) :
    Keeps (given isLeftOut item) := by
  intro close outer
  exact .ite (.pure none) ((keepsItem close outer).bind fun a => .pure _)

end

end TypstMarkup.Expression
