import TypstMarkup.Expression.Literal
import TypstMarkup.Proofs.Expression.LeadingCall
import TypstMarkup.Proofs.Expression.Lexed
import TypstMarkup.Proofs.Success

/-!
The kinds of literals. A literal is a constant, a number built from constants, or a container. Since
constants come from the lexemes for numbers and texts and from a few words, a literal is never a raw
element, nor anything else that has to be constructed, and no object that carries another value.
-/
namespace TypstMarkup.Expression

open Reader

def constantKinds : List Kind :=
  [.null, .bool, .int, .float, .complex, .str, .bytes, .declared "builtins" "ellipsis"]

def literalKinds : List Kind :=
  constantKinds ++ [.list, .tuple, .set, .dict]

/-- A value of one of some kinds that carries no other value. -/
def IsOf (kinds : List Kind) (v : Value) : Prop :=
  v.kind ∈ kinds ∧ v.core = v

theorem isOf_of_isPlainNumber {v : Value} (number : isPlainNumber v = true) :
    IsOf constantKinds v := by
  cases v with
  | int _ => exact ⟨(by decide : Kind.int ∈ constantKinds), rfl⟩
  | float _ => exact ⟨(by decide : Kind.float ∈ constantKinds), rfl⟩
  | complex _ _ => exact ⟨(by decide : Kind.complex ∈ constantKinds), rfl⟩
  | _ => cases number

/-! ### Numbers among lexemes -/

/-- What a token for a number holds is a number. -/
def Token.Numeric : Token → Prop
  | .number v => isPlainNumber v = true
  | _ => True

/-- What lexemes of numbers hold are numbers. -/
def Numeric (lexemes : List Lexeme) : Prop :=
  ∀ l ∈ lexemes, l.token.Numeric

theorem numeric_nil : Numeric [] := List.forall_mem_nil _

theorem numeric_cons {token : Token} {line : Nat} {rest : List Lexeme}
    (first : token.Numeric) (later : Numeric rest) :
    Numeric (⟨token, line⟩ :: rest) :=
  List.forall_mem_cons.2 ⟨first, later⟩

theorem Numeric.tail {l : Lexeme} {rest : List Lexeme} (numeric : Numeric (l :: rest)) :
    Numeric rest :=
  (List.forall_mem_cons.1 numeric).2

theorem isPlainNumber_of_finishFloat {digits source rest : List Char} {exponent : Int} {v : Value}
    (read : finishFloat digits exponent source = some (v, rest)) : isPlainNumber v = true := by
  unfold finishFloat at read
  split at read
  · split at read
    · split at read
      · cases read; rfl
      · cases read
    · split at read
      · cases read; rfl
      · cases read
  · cases read; rfl

theorem isPlainNumber_of_exponent {mid rest : List Char} {v : Value}
    {next : Option (Int × List Char) → Option (Value × List Char)}
    (read : readExponentPart mid >>= next = some (v, rest))
    (given : ∀ exponent behind, next (some (exponent, behind)) = some (v, rest) →
      isPlainNumber v = true)
    (left : next none = some (v, rest) → isPlainNumber v = true) : isPlainNumber v = true := by
  obtain ⟨found, -, read⟩ := Option.bind_eq_some_iff.1 read
  cases found with
  | some part => exact given part.1 part.2 read
  | none => exact left read

theorem isPlainNumber_of_readDecimal {source rest : List Char} {v : Value}
    (read : readDecimal source = some (v, rest)) : isPlainNumber v = true := by
  unfold readDecimal at read
  extract_lets finish at read
  have finished (whole mid : List Char) (read : finish (whole, mid) = some (v, rest)) :
      isPlainNumber v = true := by
    dsimp only [finish] at read
    split at read
    · split at read
      · split at read
        · obtain ⟨⟨part, behind⟩, -, read⟩ := Option.bind_eq_some_iff.1 read
          exact isPlainNumber_of_exponent read (fun _ _ => isPlainNumber_of_finishFloat)
            isPlainNumber_of_finishFloat
        · exact isPlainNumber_of_exponent read (fun _ _ => isPlainNumber_of_finishFloat)
            isPlainNumber_of_finishFloat
      · obtain ⟨⟨part, behind⟩, -, read⟩ := Option.bind_eq_some_iff.1 read
        exact isPlainNumber_of_exponent read (fun _ _ => isPlainNumber_of_finishFloat)
            isPlainNumber_of_finishFloat
    · refine isPlainNumber_of_exponent read (fun _ _ => isPlainNumber_of_finishFloat) fun read => ?_
      dsimp only at read
      split at read
      · exact isPlainNumber_of_finishFloat read
      · exact isPlainNumber_of_finishFloat read
      · obtain ⟨_, -, read⟩ := Option.bind_eq_some_iff.1 read
        obtain ⟨_, -, read⟩ := Option.bind_eq_some_iff.1 read
        obtain ⟨_, -, same⟩ := Option.bind_eq_some_iff.1 read
        cases same
        rfl
  split at read
  · rename_i tail
    exact finished [] ('.' :: tail) read
  · obtain ⟨⟨whole, mid⟩, -, read⟩ := Option.bind_eq_some_iff.1 read
    exact finished whole mid read

theorem isPlainNumber_of_readBased {base : Nat} {isDigit : Char → Bool} {source rest : List Char}
    {v : Value} (read : readBased base isDigit source = some (v, rest)) :
    isPlainNumber v = true := by
  obtain ⟨_, -, read⟩ := Option.bind_eq_some_iff.1 read
  obtain ⟨_, -, read⟩ := Option.bind_eq_some_iff.1 read
  cases read
  rfl

theorem isPlainNumber_of_readNumber {source rest : List Char} {v : Value}
    (read : readNumber source = some (v, rest)) : isPlainNumber v = true := by
  unfold readNumber at read
  split at read
  · split at read
    · exact isPlainNumber_of_readBased read
    split at read
    · exact isPlainNumber_of_readBased read
    split at read
    · exact isPlainNumber_of_readBased read
    · exact isPlainNumber_of_readDecimal read
  · exact isPlainNumber_of_readDecimal read

/-- A step of the lexer gives numbers only. -/
theorem Step.numeric {brackets upper : List String} {source rest : List Char}
    {given : List Lexeme} (step : Step brackets source given upper rest) : Numeric given := by
  have single {token : Token} {line : Nat} (first : token.Numeric) : Numeric [⟨token, line⟩] :=
    numeric_cons first numeric_nil
  have text {token : Token} (isText : token.IsText) : token.Numeric := by
    cases token with
    | text _ | bytes _ | formatted _ _ => trivial
    | _ => cases isText
  cases step with
  | passed | comment | joined => exact numeric_nil
  | number _ read => exact single (isPlainNumber_of_readNumber read)
  | text _ _ isText | marked _ _ _ _ isText => exact single (text isText)
  | lineEnd | name | opening | closing | symbol => exact single trivial

theorem numeric_of_lexFrom {fuel : Nat} {place : Place} {source : List Char}
    {lexemes : List Lexeme} (found : lexFrom fuel place source = some lexemes) :
    Numeric lexemes := by
  induction fuel generalizing place source lexemes with
  | zero => cases found
  | succ fuel ih =>
    cases source with
    | nil =>
      rw [lexFrom] at found
      split at found
      · cases found
        exact numeric_nil
      · cases found
    | cons c rest =>
      obtain ⟨given, next, after, more, step, later, rfl⟩ := begins_of_lexFrom found
      exact List.forall_mem_append.2 ⟨step.numeric, ih later⟩

theorem numeric_of_lex? {source : List Char} {lexemes : List Lexeme}
    (found : lex? source = some lexemes) : Numeric lexemes := by
  unfold lex? at found
  dsimp only at found
  split at found
  · cases found
  · exact numeric_of_lexFrom found

/-! ### Readers that give constants of few kinds -/

/-- If an expression is a constant, it is of one of the kinds of constants. -/
def Plain : Expr → Prop
  | .constant v => IsOf constantKinds v
  | _ => True

/-- A reader that makes plain expressions from lexemes whose numbers are numbers. -/
def ReadsPlain (r : Reader Expr) : Prop :=
  ∀ s e s', Numeric s → r.run s = some (e, s') → Plain e

/-- A reader that makes plain expressions from any lexemes. -/
def AlwaysPlain (r : Reader Expr) : Prop :=
  ∀ s e s', r.run s = some (e, s') → Plain e

/-- A reader that is given a plain expression makes a plain one. -/
def PassesPlain (next : Expr → Reader Expr) : Prop :=
  ∀ e, Plain e → AlwaysPlain (next e)

namespace AlwaysPlain

theorem reads {r : Reader Expr} (always : AlwaysPlain r) : ReadsPlain r :=
  fun s e s' _ => always s e s'

theorem pure {e : Expr} (plain : Plain e) : AlwaysPlain (pure e) := by
  intro s e' s' run
  cases run
  exact plain

theorem failure : AlwaysPlain failure := by
  intro s e s' run
  cases run

theorem bind {α : Type} {r : Reader α} {next : α → Reader Expr}
    (later : ∀ a, AlwaysPlain (next a)) : AlwaysPlain (r >>= next) := by
  intro s e s' run
  obtain ⟨a, mid, -, run⟩ := run_bind_eq_some.1 run
  exact later a mid e s' run

theorem ite {P : Prop} [Decidable P] {yes no : Reader Expr} (first : AlwaysPlain yes)
    (second : AlwaysPlain no) : AlwaysPlain (if P then yes else no) := by
  split
  · exact first
  · exact second

end AlwaysPlain

namespace ReadsPlain

theorem failure : ReadsPlain failure := AlwaysPlain.failure.reads

theorem bind {r : Reader Expr} {next : Expr → Reader Expr} (first : ReadsPlain r)
    (passes : PassesPlain next) : ReadsPlain (r >>= next) := by
  intro s e s' numeric run
  obtain ⟨e₁, mid, runFirst, run⟩ := run_bind_eq_some.1 run
  exact passes e₁ (first s e₁ mid numeric runFirst) mid e s' run

/-- A reader that looks at the lexemes first. -/
theorem look {α : Type} {r : Reader α} {next : α → Reader Expr}
    (same : ∀ s a s', r.run s = some (a, s') → s' = s) (later : ∀ a, ReadsPlain (next a)) :
    ReadsPlain (r >>= next) := by
  intro s e s' numeric run
  obtain ⟨a, mid, runFirst, run⟩ := run_bind_eq_some.1 run
  rw [same s a mid runFirst] at run
  exact later a s e s' numeric run

theorem line {next : Nat → Reader Expr} (later : ∀ n, ReadsPlain (next n)) :
    ReadsPlain (Reader.line >>= next) :=
  look (fun _ _ _ run => by cases run; rfl) later

theorem ite {P : Prop} [Decidable P] {yes no : Reader Expr} (first : ReadsPlain yes)
    (second : ReadsPlain no) : ReadsPlain (if P then yes else no) := by
  split
  · exact first
  · exact second

theorem takeSymbol {t : String} {yes no : Reader Expr} (taken : ReadsPlain yes)
    (left : ReadsPlain no) : ReadsPlain (do if ← Reader.takeSymbol t then yes else no) := by
  intro s e s' numeric run
  obtain ⟨found, mid, take, runRest⟩ := run_bind_eq_some.1 run
  rcases run_takeSymbol take with ⟨rfl, line, rfl⟩ | ⟨rfl, rfl, -⟩
  · exact taken mid e s' numeric.tail runRest
  · exact left mid e s' numeric runRest

theorem takeWord {word : String} {yes no : Reader Expr} (taken : ReadsPlain yes)
    (left : ReadsPlain no) : ReadsPlain (do if ← Reader.takeWord word then yes else no) := by
  intro s e s' numeric run
  obtain ⟨found, mid, take, runRest⟩ := run_bind_eq_some.1 run
  rcases run_takeWord take with ⟨rfl, line, rfl⟩ | ⟨rfl, rfl, -⟩
  · exact taken mid e s' numeric.tail runRest
  · exact left mid e s' numeric runRest

end ReadsPlain

theorem startsAssignment_same (s : List Lexeme) (a : Bool) (s' : List Lexeme)
    (run : startsAssignment.run s = some (a, s')) : s' = s := by
  obtain ⟨seen, mid, same, run⟩ := run_bind_eq_some.1 run
  cases same
  split at run <;> (cases run; rfl)

theorem passesPlain_trailers (fuel start : Nat) : PassesPlain (trailers fuel start) := by
  induction fuel with
  | zero => exact fun _ _ => .failure
  | succ fuel ih =>
    intro e plain
    rw [trailers]
    refine .bind fun line => .bind fun dot => .ite ?_ ?_
    · exact .bind fun line => .bind fun member => ih _ trivial
    refine .bind fun group => .ite ?_ ?_
    · refine .bind fun empty => .ite (ih _ trivial) ?_
      exact .bind fun found => ih _ trivial
    refine .bind fun index => .ite ?_ (.pure plain)
    refine .bind fun found => .bind fun _ => ?_
    split
    · exact ih _ trivial
    · exact ih _ trivial

theorem passesPlain_binaryRest (fuel level : Nat) (operators : List (String × Operator)) :
    PassesPlain (binaryRest fuel level operators) := by
  induction fuel with
  | zero => exact fun _ _ => .failure
  | succ fuel ih =>
    intro e plain
    rw [binaryRest]
    refine .bind fun found => ?_
    cases found with
    | some op => exact .bind fun right => ih _ trivial
    | none => exact .pure plain

theorem alwaysPlain_display (fuel : Nat) (kind : ComprehensionKind) (close : String) (line : Nat)
    (first : Expr) : AlwaysPlain (display fuel kind close line first) := by
  cases fuel with
  | zero => exact .failure
  | succ fuel =>
    rw [display]
    refine .bind fun loops => .ite ?_ ?_
    · exact .bind fun _ => .bind fun clauses => .bind fun _ => .pure trivial
    extract_lets finish
    have finished (rest : List Expr) : AlwaysPlain (finish rest) := by
      cases kind <;> exact .pure trivial
    refine .bind fun comma => .ite ?_ ?_
    · refine .bind fun closed => .ite ?_ ?_
      · exact .bind finished
      · exact .bind finished
    · exact .bind fun _ => .bind finished

theorem alwaysPlain_braced (fuel start : Nat) : AlwaysPlain (braced fuel start) := by
  cases fuel with
  | zero => exact .failure
  | succ fuel =>
    have displayed (first : Expr) := alwaysPlain_display fuel .set "\x7d" start first
    rw [braced]
    refine .bind fun empty => .ite (.pure trivial) ?_
    refine .bind fun merges => .ite (.bind fun entries => .pure trivial) ?_
    refine .bind fun star => .bind fun starts => .ite (.bind displayed) ?_
    refine .bind fun first => .bind fun colon => .ite ?_ (displayed first)
    refine .bind fun v => .bind fun loops => .ite ?_ ?_
    · exact .bind fun clauses => .bind fun _ => .pure trivial
    refine .bind fun comma => .ite ?_ ?_
    · refine .bind fun closed => .ite ?_ ?_
      · exact .bind fun rest => .pure trivial
      · exact .bind fun rest => .pure trivial
    · exact .bind fun _ => .bind fun rest => .pure trivial

theorem alwaysPlain_texts (fuel : Nat) (lexemes : List Lexeme) :
    AlwaysPlain (texts fuel lexemes) := by
  cases fuel with
  | zero => exact .failure
  | succ fuel =>
    rw [texts]
    refine .ite (.pure (And.intro (by decide : Kind.bytes ∈ constantKinds) rfl)) ?_
    refine .bind fun _ => .bind fun parts => .ite (.pure trivial) ?_
    exact .pure (And.intro (by decide : Kind.str ∈ constantKinds) rfl)

/-! ### The readers from an expression down to an atom -/

/-- The readers that hand constants on. -/
structure HandsOn (fuel : Nat) : Prop where
  namedExpression : ReadsPlain (namedExpression fuel)
  expression : ReadsPlain (expression fuel)
  disjunction : ReadsPlain (disjunction fuel)
  conjunction : ReadsPlain (conjunction fuel)
  inversion : ReadsPlain (inversion fuel)
  binary (level : Nat) : ReadsPlain (binary fuel level)
  factor : ReadsPlain (factor fuel)
  primary : ReadsPlain (primary fuel)
  atom : ReadsPlain (atom fuel)
  parenthesised (start : Nat) : ReadsPlain (parenthesised fuel start)
  displayItem : ReadsPlain (displayItem fuel)

theorem handsOn_zero : HandsOn 0 where
  namedExpression := .failure
  expression := .failure
  disjunction := .failure
  conjunction := .failure
  inversion := .failure
  binary _ := .failure
  factor := .failure
  primary := .failure
  atom := .failure
  parenthesised _ := .failure
  displayItem := .failure

section

variable {fuel : Nat} (smaller : HandsOn fuel)
include smaller

theorem readsPlain_namedExpression : ReadsPlain (namedExpression (fuel + 1)) := by
  rw [namedExpression]
  refine .look startsAssignment_same fun starts => .ite ?_ smaller.expression
  refine AlwaysPlain.reads (.bind fun line => .bind fun id => .bind fun _ => ?_)
  exact .bind fun e => .pure trivial

theorem readsPlain_expression : ReadsPlain (expression (fuel + 1)) := by
  rw [expression]
  refine .line fun line => .takeWord ?_ ?_
  · refine AlwaysPlain.reads (.bind fun empty => ?_)
    extract_lets body
    have bodies (items : List ParameterItem) : AlwaysPlain (body items) :=
      .bind fun _ => .bind fun parameters => .bind fun e => .pure trivial
    exact .ite (.bind bodies) (.bind fun found => .bind bodies)
  · refine smaller.disjunction.bind fun yes plain => .bind fun conditional => ?_
    refine .ite (.bind fun test => .bind fun _ => .bind fun no => .pure trivial) (.pure plain)

theorem readsPlain_disjunction : ReadsPlain (disjunction (fuel + 1)) := by
  rw [disjunction]
  refine smaller.conjunction.bind fun first plain => .bind fun rest => ?_
  cases rest with
  | nil => exact .pure plain
  | cons e rest => exact .pure trivial

theorem readsPlain_conjunction : ReadsPlain (conjunction (fuel + 1)) := by
  rw [conjunction]
  refine smaller.inversion.bind fun first plain => .bind fun rest => ?_
  cases rest with
  | nil => exact .pure plain
  | cons e rest => exact .pure trivial

theorem readsPlain_inversion : ReadsPlain (inversion (fuel + 1)) := by
  rw [inversion]
  refine .takeWord (AlwaysPlain.reads (.bind fun e => .pure trivial)) ?_
  refine (smaller.binary 0).bind fun first plain => .bind fun rest => ?_
  cases rest with
  | nil => exact .pure plain
  | cons e rest => exact .pure trivial

theorem readsPlain_binary (level : Nat) : ReadsPlain (binary (fuel + 1) level) := by
  rw [binary]
  split
  · exact (smaller.binary (level + 1)).bind (passesPlain_binaryRest fuel level _)
  · exact smaller.factor

theorem readsPlain_factor : ReadsPlain (factor (fuel + 1)) := by
  rw [factor]
  refine .takeSymbol (AlwaysPlain.reads (.bind fun e => .pure trivial)) ?_
  refine .takeSymbol (AlwaysPlain.reads (.bind fun e => .pure trivial)) ?_
  refine .takeSymbol (AlwaysPlain.reads (.bind fun e => .pure trivial)) ?_
  refine .line fun line => ?_
  extract_lets power
  have powers : PassesPlain power := fun base plain =>
    .bind fun sign => .ite (.bind fun e => .pure trivial) (.pure plain)
  refine .takeWord ?_ (smaller.primary.bind powers)
  exact AlwaysPlain.reads (.bind fun e => powers _ trivial)

theorem readsPlain_primary : ReadsPlain (primary (fuel + 1)) := by
  rw [primary]
  exact .line fun line => smaller.atom.bind (passesPlain_trailers fuel line)

theorem readsPlain_atom : ReadsPlain (atom (fuel + 1)) := by
  rw [atom]
  refine .line fun line => ?_
  intro s e s' numeric run
  obtain ⟨seen, mid, same, runRest⟩ := run_bind_eq_some.1 run
  cases same
  split at runRest
  · cases runRest
    exact isOf_of_isPlainNumber (numeric _ List.mem_cons_self)
  · exact (AlwaysPlain.bind fun l => alwaysPlain_texts fuel l) _ _ _ runRest
  · exact (AlwaysPlain.bind fun l => alwaysPlain_texts fuel l) _ _ _ runRest
  · exact (AlwaysPlain.bind fun l => alwaysPlain_texts fuel l) _ _ _ runRest
  · refine (AlwaysPlain.bind fun _ => .ite ?_ (.ite ?_ (.ite ?_ ?_))) _ _ _ runRest
    · exact .pure (And.intro (by decide : Kind.null ∈ constantKinds) rfl)
    · exact .pure (And.intro (by decide : Kind.bool ∈ constantKinds) rfl)
    · exact .pure (And.intro (by decide : Kind.bool ∈ constantKinds) rfl)
    · exact .bind fun _ => .pure trivial
  · rename_i symbol _ rest
    obtain ⟨_, _, same, runRest⟩ := run_bind_eq_some.1 runRest
    cases same
    refine (ReadsPlain.ite ?_ (.ite (smaller.parenthesised line) (.ite ?_ (.ite ?_ ?_))))
      _ _ _ numeric.tail runRest
    · exact AlwaysPlain.reads (.pure
        (And.intro (by decide : Kind.declared "builtins" "ellipsis" ∈ constantKinds) rfl))
    · refine AlwaysPlain.reads (.bind fun empty => .ite (.pure trivial) (.bind fun first => ?_))
      exact alwaysPlain_display fuel .list "]" line first
    · exact (alwaysPlain_braced fuel line).reads
    · exact .failure
  · cases runRest

theorem readsPlain_parenthesised (start : Nat) : ReadsPlain (parenthesised (fuel + 1) start) := by
  rw [parenthesised]
  refine .line fun line => .takeSymbol (AlwaysPlain.reads (.pure trivial)) ?_
  refine .takeWord ?_ (smaller.displayItem.bind fun first plain => ?_)
  · refine AlwaysPlain.reads ?_
    extract_lets finish
    have finished (e : Option Expr) : AlwaysPlain (finish e) := .bind fun _ => .pure trivial
    refine .bind fun fromWord => .bind fun closing => .ite ?_ (.ite (.bind finished) ?_)
    · exact .bind fun e => .bind finished
    · refine .bind fun found => ?_
      split
      · exact .bind finished
      · exact .bind finished
  refine .bind fun loops => .ite ?_ ?_
  · exact .bind fun _ => .bind fun clauses => .bind fun _ => .pure trivial
  refine .bind fun comma => .ite ?_ ?_
  · refine .bind fun closed => .ite (.pure trivial) (.bind fun rest => .pure trivial)
  · exact .bind fun _ => .bind fun _ => .pure plain

theorem readsPlain_displayItem : ReadsPlain (displayItem (fuel + 1)) := by
  rw [displayItem]
  refine .line fun line => .takeSymbol ?_ smaller.namedExpression
  exact AlwaysPlain.reads (.bind fun e => .pure trivial)

theorem handsOn_succ : HandsOn (fuel + 1) where
  namedExpression := readsPlain_namedExpression smaller
  expression := readsPlain_expression smaller
  disjunction := readsPlain_disjunction smaller
  conjunction := readsPlain_conjunction smaller
  inversion := readsPlain_inversion smaller
  binary := readsPlain_binary smaller
  factor := readsPlain_factor smaller
  primary := readsPlain_primary smaller
  atom := readsPlain_atom smaller
  parenthesised := readsPlain_parenthesised smaller
  displayItem := readsPlain_displayItem smaller

end

theorem handsOn (fuel : Nat) : HandsOn fuel := by
  induction fuel with
  | zero => exact handsOn_zero
  | succ fuel smaller => exact handsOn_succ smaller

theorem readsPlain_expressions (fuel : Nat) : ReadsPlain (expressions fuel) := by
  intro s e s' numeric run
  obtain ⟨line, s₁, same, runRest⟩ := run_bind_eq_some.1 run
  cases same
  obtain ⟨⟨items, trailing⟩, s₂, runItems, runRest⟩ := run_bind_eq_some.1 runRest
  obtain ⟨left, s₃, same, runRest⟩ := run_bind_eq_some.1 runRest
  cases same
  obtain ⟨_, s₄, -, runResult⟩ := run_bind_eq_some.1 runRest
  obtain ⟨first, mid, runFirst, ⟨rfl, rfl, -⟩ | ⟨⟨rfl, rfl⟩ | ⟨b, others, rfl⟩, -⟩⟩ :=
    run_separated runItems
  · cases runResult
    exact (handsOn fuel).expression s e mid numeric runFirst
  · cases runResult
    trivial
  · cases runResult
    trivial

theorem plain_of_parse? {source : List Char} {e : Expr} (parsed : parse? source = some e) :
    Plain e := by
  obtain ⟨lexemes, lexed, parsed⟩ := Option.bind_eq_some_iff.1 parsed
  obtain ⟨⟨found, rest⟩, run, same⟩ := Option.bind_eq_some_iff.1 parsed
  cases same
  exact readsPlain_expressions _ lexemes e rest (numeric_of_lex? lexed) run

/-! ### From expressions to literals -/

theorem isPlainNumber_of_numberOf {e : Expr} {v : Value} (read : numberOf e = .ok v) :
    isPlainNumber v = true := by
  cases e with
  | constant w =>
    rw [numberOf] at read
    split at read
    · cases read
      assumption
    · cases read
  | _ => cases read

theorem isPlainNumber_positive {v w : Value} (number : isPlainNumber v = true)
    (signed : v.positive = .ok w) : isPlainNumber w = true := by
  cases v with
  | int _ | float _ | complex _ _ => cases signed; rfl
  | _ => cases number

theorem isPlainNumber_negative {v w : Value} (number : isPlainNumber v = true)
    (signed : v.negative = .ok w) : isPlainNumber w = true := by
  cases v with
  | int _ | float _ | complex _ _ => cases signed; rfl
  | _ => cases number

theorem isPlainNumber_of_signedNumberOf {e : Expr} {v : Value}
    (read : signedNumberOf e = .ok v) : isPlainNumber v = true := by
  unfold signedNumberOf at read
  split at read
  · obtain ⟨w, readNumber, signed⟩ := bind_eq_ok_iff.1 read
    exact isPlainNumber_positive (isPlainNumber_of_numberOf readNumber) signed
  · obtain ⟨w, readNumber, signed⟩ := bind_eq_ok_iff.1 read
    exact isPlainNumber_negative (isPlainNumber_of_numberOf readNumber) signed
  · exact isPlainNumber_of_numberOf read

theorem isPlainNumber_of_onComplexes {op : Operator} {a b c d : Binary64} {mismatch : Fault}
    {v : Value} (sum : (op == .add || op == .sub) = true)
    (made : Number.onComplexes op a b c d mismatch = .ok v) : isPlainNumber v = true := by
  cases op with
  | add | sub => cases made; rfl
  | _ => cases sum

theorem isPlainNumber_of_complexSum {op : Operator} {left right : Expr} {v : Value}
    (read : complexSum op left right = .ok v) : isPlainNumber v = true := by
  obtain ⟨a, -, read⟩ := bind_eq_ok_iff.1 read
  obtain ⟨b, -, read⟩ := bind_eq_ok_iff.1 read
  split at read
  · split at read
    · rename_i sum
      obtain ⟨_, -, made⟩ := bind_eq_ok_iff.1 (read : Number.apply op (.int _) (.complex _ _) _ = _)
      obtain ⟨_, -, made⟩ := bind_eq_ok_iff.1 made
      exact isPlainNumber_of_onComplexes sum made
    · cases read
  · split at read
    · rename_i sum
      obtain ⟨_, -, made⟩ :=
        bind_eq_ok_iff.1 (read : Number.apply op (.float _) (.complex _ _) _ = _)
      obtain ⟨_, -, made⟩ := bind_eq_ok_iff.1 made
      exact isPlainNumber_of_onComplexes sum made
    · cases read
  · cases read

/-- Literals are of few kinds, and are their own values. -/
theorem isOf_of_literal? {source : List Char} {v : Value} (read : literal? source = .ok v) :
    IsOf literalKinds v := by
  have constant {w : Value} (isOf : IsOf constantKinds w) : IsOf literalKinds w :=
    ⟨List.mem_append_left _ isOf.1, isOf.2⟩
  unfold literal? at read
  split at read
  · rename_i e parsed
    unfold literalOf at read
    split at read
    · cases read
      exact constant (plain_of_parse? parsed)
    · obtain ⟨items, -, same⟩ := bind_eq_ok_iff.1 read
      cases same
      exact ⟨(by decide : Kind.tuple ∈ literalKinds), rfl⟩
    · obtain ⟨items, -, same⟩ := bind_eq_ok_iff.1 read
      cases same
      exact ⟨(by decide : Kind.list ∈ literalKinds), rfl⟩
    · obtain ⟨items, -, made⟩ := bind_eq_ok_iff.1 read
      obtain ⟨_, -, same⟩ := bind_eq_ok_iff.1 made
      cases same
      exact ⟨(by decide : Kind.set ∈ literalKinds), rfl⟩
    · obtain ⟨keys, -, made⟩ := bind_eq_ok_iff.1 read
      obtain ⟨values, -, made⟩ := bind_eq_ok_iff.1 made
      obtain ⟨_, -, same⟩ := bind_eq_ok_iff.1 made
      cases same
      exact ⟨(by decide : Kind.dict ∈ literalKinds), rfl⟩
    · cases read
      exact ⟨(by decide : Kind.set ∈ literalKinds), rfl⟩
    · exact constant (isOf_of_isPlainNumber (isPlainNumber_of_complexSum read))
    · exact constant (isOf_of_isPlainNumber (isPlainNumber_of_signedNumberOf read))
  · cases read

theorem kind_of_literal? {source : List Char} {v : Value} (read : literal? source = .ok v) :
    v.kind ∈ literalKinds :=
  (isOf_of_literal? read).1

end TypstMarkup.Expression
