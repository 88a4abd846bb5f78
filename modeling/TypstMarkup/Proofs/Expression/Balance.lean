import TypstMarkup.Proofs.Expression.Brackets

/-!
Reading expressions balances brackets: a reader that takes an opening bracket reads on to the one
that closes it. The readers call each other, so one statement holds the facts about all of them for
a budget, and each reader is treated with the facts for the smaller budget.
-/
namespace TypstMarkup.Expression

open Reader

/-- What all readers do with brackets if their budget is given. -/
structure Balancing (fuel : Nat) : Prop where
  namedExpression : Keeps (namedExpression fuel)
  expression : Keeps (expression fuel)
  parameterItem : Keeps (parameterItem fuel)
  disjunction : Keeps (disjunction fuel)
  conjunction : Keeps (conjunction fuel)
  inversion : Keeps (inversion fuel)
  comparisons : Keeps (comparisons fuel)
  binary (level : Nat) : Keeps (binary fuel level)
  binaryRest (level : Nat) (operators : List (String × Operator)) (left : Expr)
    (plain : ∀ entry ∈ operators, IsPlain entry.1) : Keeps (binaryRest fuel level operators left)
  factor : Keeps (factor fuel)
  primary : Keeps (primary fuel)
  trailers (start : Nat) (e : Expr) : Keeps (trailers fuel start e)
  arguments (line : Nat) : Closes ")" (arguments fuel line)
  argumentList (afterKeyword afterEntries : Bool) :
    Closes ")" (argumentList fuel afterKeyword afterEntries)
  argumentsAfter (afterKeyword afterEntries : Bool) :
    Closes ")" (argumentsAfter fuel afterKeyword afterEntries)
  subscriptItem : Keeps (subscriptItem fuel)
  displayItem : Keeps (displayItem fuel)
  dictEntry : Keeps (dictEntry fuel)
  clauses : Keeps (clauses fuel)
  targetItem : Keeps (targetItem fuel)
  display (kind : ComprehensionKind) (close : String) (line : Nat) (first : Expr)
    (closes : isClosing close = true) : Closes close (display fuel kind close line first)
  atom : Keeps (atom fuel)
  parenthesised (start : Nat) : Closes ")" (parenthesised fuel start)
  yieldItem : Keeps (yieldItem fuel)
  braced (start : Nat) : Closes "\x7d" (braced fuel start)
  texts (lexemes : List Lexeme) : Keeps (texts fuel lexemes)
  piece (lastLine : Nat) (p : Piece) : Keeps (piece fuel lastLine p)

theorem keeps_failure {α : Type} : Keeps (failure : Reader α) := fun _ _ => .failure

theorem closes_failure {α : Type} (close : String) : Closes close (failure : Reader α) :=
  fun _ => .failure

theorem balancing_zero : Balancing 0 where
  namedExpression := keeps_failure
  expression := keeps_failure
  parameterItem := keeps_failure
  disjunction := keeps_failure
  conjunction := keeps_failure
  inversion := keeps_failure
  comparisons := keeps_failure
  binary _ := keeps_failure
  binaryRest _ _ _ _ := keeps_failure
  factor := keeps_failure
  primary := keeps_failure
  trailers _ _ := keeps_failure
  arguments _ := closes_failure _
  argumentList _ _ := closes_failure _
  argumentsAfter _ _ := closes_failure _
  subscriptItem := keeps_failure
  displayItem := keeps_failure
  dictEntry := keeps_failure
  clauses := keeps_failure
  targetItem := keeps_failure
  display _ _ _ _ _ := closes_failure _
  atom := keeps_failure
  parenthesised _ := closes_failure _
  yieldItem := keeps_failure
  braced _ := closes_failure _
  texts _ := keeps_failure
  piece _ _ := keeps_failure

section

variable {fuel : Nat} (smaller : Balancing fuel)
include smaller

theorem keeps_namedExpression : Keeps (namedExpression (fuel + 1)) := by
  intro close outer
  rw [namedExpression]
  refine (keeps_startsAssignment close outer).bind fun starts =>
    .ite ?_ (smaller.expression close outer)
  refine (keeps_line close outer).bind fun line => (keeps_name close outer).bind fun id => ?_
  refine (keeps_symbol (by decide) close outer).bind fun _ => ?_
  exact (smaller.expression close outer).bind fun e => .pure _

theorem keeps_expression : Keeps (expression (fuel + 1)) := by
  intro close outer
  rw [expression]
  refine (keeps_line close outer).bind fun line => ?_
  refine (keeps_takeWord "lambda" close outer).bind fun function => .ite ?_ ?_
  · refine (keeps_isSymbol ":" close outer).bind fun empty => ?_
    -- Both branches go on with the body.
    extract_lets body
    have keepsBody (items : List ParameterItem) :
        Moves (close :: outer) (close :: outer) (body items) := by
      refine (keeps_symbol (by decide) close outer).bind fun _ => ?_
      refine (Moves.lifted _).bind fun parameters => ?_
      exact (smaller.expression close outer).bind fun e => .pure _
    refine .ite ((Moves.pure []).bind keepsBody) ?_
    refine (keeps_separated smaller.parameterItem (keeps_isSymbol ":") fuel close outer).bind ?_
    exact fun found => (Moves.pure found.1).bind keepsBody
  · refine (smaller.disjunction close outer).bind fun yes => ?_
    refine (keeps_takeWord "if" close outer).bind fun conditional => .ite ?_ (.pure yes)
    refine (smaller.disjunction close outer).bind fun test => ?_
    refine (keeps_word "else" close outer).bind fun _ => ?_
    exact (smaller.expression close outer).bind fun no => .pure _

theorem keeps_parameterItem : Keeps (parameterItem (fuel + 1)) := by
  intro close outer
  rw [parameterItem]
  refine (keeps_line close outer).bind fun line => ?_
  refine (keeps_takeSymbol (by decide) close outer).bind fun slash => .ite (.pure _) ?_
  refine (keeps_takeSymbol (by decide) close outer).bind fun stars => .ite ?_ ?_
  · refine (keeps_line close outer).bind fun line => ?_
    exact (keeps_name close outer).bind fun id => .pure _
  refine (keeps_takeSymbol (by decide) close outer).bind fun star => .ite ?_ ?_
  · refine (keeps_isSymbol "," close outer).bind fun bare => .ite (.pure _) ?_
    refine (keeps_line close outer).bind fun line => ?_
    exact (keeps_name close outer).bind fun id => .pure _
  · refine (keeps_name close outer).bind fun id => ?_
    refine (keeps_takeSymbol (by decide) close outer).bind fun sign => .ite ?_ (.pure _)
    exact (smaller.expression close outer).bind fun default => .pure _

theorem keeps_disjunction : Keeps (disjunction (fuel + 1)) := by
  intro close outer
  rw [disjunction]
  refine (smaller.conjunction close outer).bind fun first => ?_
  refine (keeps_others smaller.conjunction "or" fuel close outer).bind fun rest => ?_
  cases rest with
  | nil => exact .pure first
  | cons e rest => exact .pure _

theorem keeps_conjunction : Keeps (conjunction (fuel + 1)) := by
  intro close outer
  rw [conjunction]
  refine (smaller.inversion close outer).bind fun first => ?_
  refine (keeps_others smaller.inversion "and" fuel close outer).bind fun rest => ?_
  cases rest with
  | nil => exact .pure first
  | cons e rest => exact .pure _

theorem keeps_inversion : Keeps (inversion (fuel + 1)) := by
  intro close outer
  rw [inversion]
  refine (keeps_takeWord "not" close outer).bind fun negated => .ite ?_ ?_
  · exact (smaller.inversion close outer).bind fun e => .pure _
  · refine (smaller.binary 0 close outer).bind fun first => ?_
    refine (smaller.comparisons close outer).bind fun rest => ?_
    cases rest with
    | nil => exact .pure first
    | cons e rest => exact .pure _

theorem keeps_comparisons : Keeps (comparisons (fuel + 1)) := by
  intro close outer
  rw [comparisons]
  refine (keeps_takeComparison close outer).bind fun found => ?_
  cases found with
  | none => exact .pure []
  | some op =>
    refine (smaller.binary 0 close outer).bind fun e => ?_
    exact (smaller.comparisons close outer).bind fun rest => .pure _

theorem keeps_binary (level : Nat) : Keeps (binary (fuel + 1) level) := by
  intro close outer
  rw [binary]
  split
  · rename_i operators known
    have plain : ∀ operators ∈ levelOperators, ∀ entry ∈ operators, IsPlain entry.1 := by decide
    refine (smaller.binary (level + 1) close outer).bind fun left => ?_
    exact smaller.binaryRest level operators left (plain _ (List.mem_of_getElem? known)) close outer
  · exact smaller.factor close outer

theorem keeps_binaryRest (level : Nat) (operators : List (String × Operator)) (left : Expr)
    (plain : ∀ entry ∈ operators, IsPlain entry.1) :
    Keeps (binaryRest (fuel + 1) level operators left) := by
  intro close outer
  rw [binaryRest]
  refine (keeps_takeOperator plain close outer).bind fun found => ?_
  cases found with
  | none => exact .pure left
  | some op =>
    refine (smaller.binary (level + 1) close outer).bind fun right => ?_
    exact smaller.binaryRest level operators _ plain close outer

theorem keeps_factor : Keeps (factor (fuel + 1)) := by
  intro close outer
  have signed (op : UnaryOperator) : Moves (close :: outer) (close :: outer)
      (do return Expr.unary op (← factor fuel)) :=
    (smaller.factor close outer).bind fun e => .pure _
  rw [factor]
  refine (keeps_takeSymbol (by decide) close outer).bind fun plus => .ite (signed .positive) ?_
  refine (keeps_takeSymbol (by decide) close outer).bind fun minus => .ite (signed .negative) ?_
  refine (keeps_takeSymbol (by decide) close outer).bind fun tilde => .ite (signed .complement) ?_
  refine (keeps_line close outer).bind fun line => ?_
  refine (keeps_takeWord "await" close outer).bind fun awaited => ?_
  extract_lets power
  have keepsPower (base : Expr) : Moves (close :: outer) (close :: outer) (power base) := by
    refine (keeps_takeSymbol (by decide) close outer).bind fun stars => .ite ?_ (.pure base)
    exact (smaller.factor close outer).bind fun e => .pure _
  refine .ite ?_ ((smaller.primary close outer).bind keepsPower)
  exact (smaller.primary close outer).bind fun e => (Moves.pure _).bind keepsPower

theorem keeps_primary : Keeps (primary (fuel + 1)) := by
  intro close outer
  rw [primary]
  refine (keeps_line close outer).bind fun line => (smaller.atom close outer).bind fun e => ?_
  exact smaller.trailers line e close outer

theorem keeps_trailers (start : Nat) (e : Expr) : Keeps (trailers (fuel + 1) start e) := by
  intro close outer
  rw [trailers]
  refine (keeps_line close outer).bind fun line => ?_
  refine (keeps_takeSymbol (by decide) close outer).bind fun dot => .ite ?_ ?_
  · refine (keeps_line close outer).bind fun line => (keeps_name close outer).bind fun member => ?_
    exact smaller.trailers start _ close outer
  -- From here on a bracket is opened, and the branch that takes it must close it again.
  refine .takeSymbol (behind_opening round_opens close outer) ?_ ?_
  · refine .takeSymbol (behind_closing round_closes (close :: outer)) ?_ ?_
    · exact smaller.trailers start _ close outer
    · refine (smaller.arguments line (close :: outer)).bind fun found => ?_
      exact smaller.trailers start _ close outer
  refine .takeSymbol (behind_opening square_opens close outer) ?_ (.pure e)
  refine (keeps_separated smaller.subscriptItem (keeps_isSymbol "]") fuel "]" _).bind ?_
  intro found
  refine (closes_symbol square_closes (close :: outer)).bind fun _ => ?_
  split
  · exact smaller.trailers start _ close outer
  · exact smaller.trailers start _ close outer

theorem closes_arguments (line : Nat) : Closes ")" (arguments (fuel + 1) line) := by
  intro outer
  rw [arguments]
  -- The first lexemes are only looked at here; the list of arguments takes them itself.
  refine .look fun s found s' run => ?_
  have keyword := smaller.argumentList false false outer s found s'
  split at run
  · exact keyword run
  · exact keyword run
  · exact keyword run
  refine Moves.bind (smaller.namedExpression ")" outer) (fun first => ?_) s found s' run
  refine (keeps_startsClause ")" outer).bind fun loops => .ite ?_ ?_
  · refine (smaller.clauses ")" outer).bind fun clauses => ?_
    exact (closes_symbol round_closes outer).bind fun _ => .pure _
  refine (keeps_takeSymbol (by decide) ")" outer).bind fun comma => .ite ?_ ?_
  · exact (smaller.argumentList false false outer).bind fun found => .pure _
  · exact (closes_symbol round_closes outer).bind fun _ => .pure _

theorem closes_argumentList (afterKeyword afterEntries : Bool) :
    Closes ")" (argumentList (fuel + 1) afterKeyword afterEntries) := by
  intro outer
  have value (afterKeyword afterEntries : Bool)
      {f : Expr → List Expr × List Keyword → Reader (List Expr × List Keyword)}
      (ends : ∀ e found, Moves outer outer (f e found)) : Moves (")" :: outer) outer
        (do f (← expression fuel) (← argumentsAfter fuel afterKeyword afterEntries)) := by
    refine (smaller.expression ")" outer).bind fun e => ?_
    exact (smaller.argumentsAfter afterKeyword afterEntries outer).bind (ends e)
  rw [argumentList]
  refine (keeps_line ")" outer).bind fun line => ?_
  refine .takeSymbol (behind_closing round_closes outer) (.pure _) ?_
  refine .look fun s found s' run => ?_
  split at run
  · obtain ⟨_, mid, runGuard, run⟩ := run_bind_eq_some.1 run
    obtain ⟨-, rfl⟩ := run_guard runGuard
    refine Moves.set run ?_ (value true afterEntries fun _ _ => .pure _)
    rw [behind_noSymbol (by simp), behind_plain (by decide)]
  · refine Moves.set run ?_ (value true true fun _ _ => .pure _)
    rw [behind_plain (by decide)]
  · obtain ⟨_, mid, runGuard, run⟩ := run_bind_eq_some.1 run
    obtain ⟨-, rfl⟩ := run_guard runGuard
    refine Moves.set run ?_ (value afterKeyword afterEntries fun _ _ => .pure _)
    rw [behind_plain (by decide)]
  · refine Moves.bind (.guarded _) (fun _ => ?_) s found s' run
    refine (smaller.namedExpression ")" outer).bind fun e => ?_
    exact (smaller.argumentsAfter afterKeyword afterEntries outer).bind fun found => .pure _

theorem closes_argumentsAfter (afterKeyword afterEntries : Bool) :
    Closes ")" (argumentsAfter (fuel + 1) afterKeyword afterEntries) := by
  intro outer
  rw [argumentsAfter]
  refine (keeps_takeSymbol (by decide) ")" outer).bind fun comma => .ite ?_ ?_
  · exact smaller.argumentList afterKeyword afterEntries outer
  · exact (closes_symbol round_closes outer).bind fun _ => .pure _

theorem keeps_subscriptItem : Keeps (subscriptItem (fuel + 1)) := by
  intro close outer
  rw [subscriptItem]
  have bound (isLeftOut : Bool) := keeps_given isLeftOut smaller.expression close outer
  refine (keeps_line close outer).bind fun line => ?_
  refine (keeps_takeSymbol (by decide) close outer).bind fun star => .ite ?_ ?_
  · exact (smaller.expression close outer).bind fun e => .pure _
  refine (keeps_startsAssignment close outer).bind fun starts =>
    .ite (smaller.namedExpression close outer) ?_
  refine (keeps_isSymbol ":" close outer).bind fun colon => (bound colon).bind fun start => ?_
  refine (keeps_takeSymbol (by decide) close outer).bind fun slice => .ite ?_ ?_
  · refine (keeps_isSymbol ":" close outer).bind fun colon => ?_
    refine (keeps_isSymbol "," close outer).bind fun comma => ?_
    refine (keeps_atClosing close outer).bind fun ended => (bound _).bind fun stop => ?_
    refine (keeps_takeSymbol (by decide) close outer).bind fun stepped => .ite ?_ ?_
    · refine (keeps_isSymbol "," close outer).bind fun comma => ?_
      refine (keeps_atClosing close outer).bind fun ended => (bound _).bind fun step => ?_
      exact .pure _
    · exact (Moves.pure none).bind fun step => .pure _
  · cases start with
    | none => exact .failure
    | some e => exact .pure e

theorem keeps_displayItem : Keeps (displayItem (fuel + 1)) := by
  intro close outer
  rw [displayItem]
  refine (keeps_line close outer).bind fun line => ?_
  refine (keeps_takeSymbol (by decide) close outer).bind fun star =>
    .ite ?_ (smaller.namedExpression close outer)
  exact (smaller.binary 0 close outer).bind fun e => .pure _

theorem keeps_dictEntry : Keeps (dictEntry (fuel + 1)) := by
  intro close outer
  rw [dictEntry]
  refine (keeps_takeSymbol (by decide) close outer).bind fun stars => .ite ?_ ?_
  · exact (smaller.binary 0 close outer).bind fun e => .pure _
  · refine (smaller.expression close outer).bind fun key => ?_
    refine (keeps_symbol (by decide) close outer).bind fun _ => ?_
    exact (smaller.expression close outer).bind fun v => .pure _

theorem keeps_clauses : Keeps (clauses (fuel + 1)) := by
  intro close outer
  rw [clauses]
  refine (keeps_takeWord "async" close outer).bind fun asynchronous => ?_
  refine (keeps_word "for" close outer).bind fun _ => (keeps_line close outer).bind fun line => ?_
  refine (keeps_separated smaller.targetItem (keeps_isWord "in") fuel close outer).bind ?_
  intro found
  refine (Moves.guarded _).bind fun _ => (keeps_word "in" close outer).bind fun _ => ?_
  refine (smaller.disjunction close outer).bind fun source => ?_
  refine (keeps_others smaller.disjunction "if" fuel close outer).bind fun conditions => ?_
  refine (keeps_startsClause close outer).bind fun more => .ite ?_ (.pure _)
  exact (smaller.clauses close outer).bind fun rest => .pure _

theorem keeps_targetItem : Keeps (targetItem (fuel + 1)) := by
  intro close outer
  rw [targetItem]
  refine (keeps_line close outer).bind fun line => ?_
  refine (keeps_takeSymbol (by decide) close outer).bind fun star =>
    .ite ?_ (smaller.binary 0 close outer)
  exact (smaller.binary 0 close outer).bind fun e => .pure _

theorem closes_display (kind : ComprehensionKind) (close : String) (line : Nat) (first : Expr)
    (closes : isClosing close = true) :
    Closes close (display (fuel + 1) kind close line first) := by
  intro outer
  rw [display]
  refine (keeps_startsClause close outer).bind fun loops => .ite ?_ ?_
  · refine (Moves.guarded _).bind fun _ => (smaller.clauses close outer).bind fun clauses => ?_
    exact (closes_symbol closes outer).bind fun _ => .pure _
  refine (keeps_takeSymbol (by decide) close outer).bind fun comma => ?_
  extract_lets collected
  have keepsCollected (rest : List Expr) : Moves outer outer (collected rest) := by
    cases kind <;> exact .pure _
  refine .ite (.takeSymbol (behind_closing closes outer) ?_ ?_) ?_
  · exact (Moves.pure []).bind keepsCollected
  · exact (closes_untilClosing closes smaller.displayItem fuel outer).bind keepsCollected
  · exact (closes_symbol closes outer).bind fun _ => (Moves.pure []).bind keepsCollected

theorem keeps_atom : Keeps (atom (fuel + 1)) := by
  intro close outer
  rw [atom]
  refine (keeps_line close outer).bind fun line => .look fun s e s' run => ?_
  have text := ((keeps_adjacentTexts close outer).bind fun lexemes =>
    smaller.texts lexemes close outer) s e s'
  split at run
  · exact Moves.set run rfl (.pure _)
  · exact text run
  · exact text run
  · exact text run
  · refine Moves.set run rfl ?_
    refine .ite (.pure _) (.ite (.pure _) (.ite (.pure _) ?_))
    exact (Moves.guarded _).bind fun _ => .pure _
  · rename_i sign line rest
    by_cases dots : sign = "..."
    · subst dots
      exact Moves.set run (behind_plain (by decide) _ _ _ _) (.pure _)
    by_cases group : sign = "("
    · subst group
      refine Moves.set run (behind_opening round_opens _ _ _ _) ?_
      exact smaller.parenthesised _ (close :: outer)
    by_cases list : sign = "["
    · subst list
      refine Moves.set run (behind_opening square_opens _ _ _ _) ?_
      refine .takeSymbol (behind_closing square_closes (close :: outer)) (.pure _) ?_
      refine (smaller.displayItem "]" (close :: outer)).bind fun first => ?_
      exact smaller.display .list "]" _ first square_closes (close :: outer)
    by_cases brace : sign = "\x7b"
    · subst brace
      refine Moves.set run (behind_opening curly_opens _ _ _ _) ?_
      exact smaller.braced _ (close :: outer)
    · obtain ⟨_, mid, -, run⟩ := run_bind_eq_some.1 run
      simp only [beq_iff_eq, dots, group, list, brace, ↓reduceIte] at run
      cases run
  · cases run

theorem closes_parenthesised (start : Nat) : Closes ")" (parenthesised (fuel + 1) start) := by
  intro outer
  rw [parenthesised]
  refine (keeps_line ")" outer).bind fun line => ?_
  refine .takeSymbol (behind_closing round_closes outer) (.pure _) ?_
  refine (keeps_takeWord "yield" ")" outer).bind fun yields => .ite ?_ ?_
  · refine (keeps_takeWord "from" ")" outer).bind fun delegates => ?_
    refine (keeps_isSymbol ")" ")" outer).bind fun empty => ?_
    extract_lets yielded
    have closesYielded (e : Option Expr) : Moves (")" :: outer) outer (yielded e) :=
      (closes_symbol round_closes outer).bind fun _ => .pure _
    refine .ite ?_ (.ite ((Moves.pure none).bind closesYielded) ?_)
    · exact (smaller.expression ")" outer).bind fun e => (Moves.pure _).bind closesYielded
    · refine (keeps_separated smaller.yieldItem (keeps_isSymbol ")") fuel ")" outer).bind ?_
      intro found
      split
      · exact (Moves.pure _).bind closesYielded
      · exact (Moves.pure _).bind closesYielded
  refine (smaller.displayItem ")" outer).bind fun first => ?_
  refine (keeps_startsClause ")" outer).bind fun loops => .ite ?_ ?_
  · refine (Moves.guarded _).bind fun _ => (smaller.clauses ")" outer).bind fun clauses => ?_
    exact (closes_symbol round_closes outer).bind fun _ => .pure _
  refine (keeps_takeSymbol (by decide) ")" outer).bind fun comma => .ite ?_ ?_
  · refine .takeSymbol (behind_closing round_closes outer) (.pure _) ?_
    refine (closes_untilClosing round_closes smaller.displayItem fuel outer).bind fun rest => ?_
    exact .pure _
  · refine (Moves.guarded _).bind fun _ => ?_
    exact (closes_symbol round_closes outer).bind fun _ => .pure _

theorem keeps_yieldItem : Keeps (yieldItem (fuel + 1)) := by
  intro close outer
  rw [yieldItem]
  refine (keeps_line close outer).bind fun line => ?_
  refine (keeps_takeSymbol (by decide) close outer).bind fun star =>
    .ite ?_ (smaller.expression close outer)
  exact (smaller.binary 0 close outer).bind fun e => .pure _

theorem closes_braced (start : Nat) : Closes "\x7d" (braced (fuel + 1) start) := by
  intro outer
  have entries := closes_untilClosing curly_closes smaller.dictEntry fuel outer
  rw [braced]
  refine .takeSymbol (behind_closing curly_closes outer) (.pure _) ?_
  refine (keeps_isSymbol "**" "\x7d" outer).bind fun merges => .ite ?_ ?_
  · exact entries.bind fun entries => .pure _
  refine (keeps_isSymbol "*" "\x7d" outer).bind fun star => ?_
  refine (keeps_startsAssignment "\x7d" outer).bind fun starts => .ite ?_ ?_
  · refine (smaller.displayItem "\x7d" outer).bind fun first => ?_
    exact smaller.display .set "\x7d" start first curly_closes outer
  refine (smaller.expression "\x7d" outer).bind fun first => ?_
  refine (keeps_takeSymbol (by decide) "\x7d" outer).bind fun colon => .ite ?_ ?_
  · refine (smaller.expression "\x7d" outer).bind fun v => ?_
    refine (keeps_startsClause "\x7d" outer).bind fun loops => .ite ?_ ?_
    · refine (smaller.clauses "\x7d" outer).bind fun clauses => ?_
      exact (closes_symbol curly_closes outer).bind fun _ => .pure _
    refine (keeps_takeSymbol (by decide) "\x7d" outer).bind fun comma => .ite ?_ ?_
    · refine .takeSymbol (behind_closing curly_closes outer) ?_ ?_
      · exact (Moves.pure []).bind fun rest => .pure _
      · exact entries.bind fun rest => .pure _
    · refine (closes_symbol curly_closes outer).bind fun _ => ?_
      exact (Moves.pure []).bind fun rest => .pure _
  · exact smaller.display .set "\x7d" start first curly_closes outer

theorem keeps_piece (lastLine : Nat) (p : Piece) : Keeps (piece (fuel + 1) lastLine p) := by
  intro close outer
  rw [piece.eq_def]
  cases p with
  | literal text => exact .pure _
  | field source lineEndsAfter shown conversion spec =>
    -- The field is read from lexemes of its own, so the lexemes here stay as they are.
    refine (Moves.lifted _).bind fun lexemes => (Moves.lifted _).bind fun found => ?_
    refine (Moves.guarded _).bind fun _ => ?_
    refine (Moves.mapM spec fun p _ => smaller.piece lastLine p close outer).bind fun spec => ?_
    exact .ite (.pure _) (.pure _)

theorem keeps_texts (lexemes : List Lexeme) : Keeps (texts (fuel + 1) lexemes) := by
  intro close outer
  rw [texts]
  refine .ite (.pure _) ((Moves.guarded _).bind fun _ => ?_)
  refine (Moves.mapM lexemes fun l _ => ?_).bind fun parts => .ite (.pure _) (.pure _)
  split
  · exact .pure _
  · refine (Moves.lifted _).bind fun pieces => ?_
    exact .mapM pieces fun p _ => smaller.piece _ p close outer
  · exact .failure

theorem balancing_succ : Balancing (fuel + 1) where
  namedExpression := keeps_namedExpression smaller
  expression := keeps_expression smaller
  parameterItem := keeps_parameterItem smaller
  disjunction := keeps_disjunction smaller
  conjunction := keeps_conjunction smaller
  inversion := keeps_inversion smaller
  comparisons := keeps_comparisons smaller
  binary := keeps_binary smaller
  binaryRest := keeps_binaryRest smaller
  factor := keeps_factor smaller
  primary := keeps_primary smaller
  trailers := keeps_trailers smaller
  arguments := closes_arguments smaller
  argumentList := closes_argumentList smaller
  argumentsAfter := closes_argumentsAfter smaller
  subscriptItem := keeps_subscriptItem smaller
  displayItem := keeps_displayItem smaller
  dictEntry := keeps_dictEntry smaller
  clauses := keeps_clauses smaller
  targetItem := keeps_targetItem smaller
  display := closes_display smaller
  atom := keeps_atom smaller
  parenthesised := closes_parenthesised smaller
  yieldItem := keeps_yieldItem smaller
  braced := closes_braced smaller
  texts := keeps_texts smaller
  piece := keeps_piece smaller

end

/-- Every reader balances brackets, whatever its budget. -/
theorem balancing (fuel : Nat) : Balancing fuel := by
  induction fuel with
  | zero => exact balancing_zero
  | succ fuel smaller => exact balancing_succ smaller

end TypstMarkup.Expression
