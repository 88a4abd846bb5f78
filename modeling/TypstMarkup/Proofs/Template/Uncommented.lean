import TypstMarkup.Proofs.Expression.Lexed
import TypstMarkup.Proofs.Expression.LineEnds
import TypstMarkup.Proofs.Expression.Number
import TypstMarkup.Proofs.Template.Enclosed

/-!
Contents without a number sign, read by two lexers. The search for the closing bracket of a splice
knows texts and round brackets, the lexer of expressions knows all lexemes. As long as there is no
comment they agree on the texts, and so on the bracket that closes the splice.
-/
namespace TypstMarkup.Template

open Expression

/-! ### Line ends -/

theorem Enclosed.behindFeed {depth : Nat} {within : Within} {rest : List Char}
    (enclosed : Enclosed depth within ('\n' :: rest)) (quoted : within.Quoted) :
    Enclosed depth within rest := by
  cases enclosed with
  | openTriple quote tail => exact absurd rfl (quote_ne quote (by decide))
  | openSingle quote lone tail => exact absurd rfl (quote_ne quote (by decide))
  | plain noQuote noOpen noClose tail => exact tail
  | closeSingle tail => exact absurd rfl (quote_ne quoted (by decide))
  | insideSingle noSlash noQuote tail => exact tail
  | closeTriple tail => exact absurd rfl (quote_ne quoted (by decide))
  | insideTriple noSlash goesOn tail => exact tail

/-- A line end hides nothing, wherever it stands. -/
theorem Enclosed.feedAhead {depth : Nat} {within : Within} {rest : List Char}
    (tail : Enclosed depth within rest) (quoted : within.Quoted) {c : Char}
    (feed : c = '\n' ∨ c = '\r') : Enclosed depth within (c :: rest) := by
  have noSlash : c ≠ '\\' := by rcases feed with rfl | rfl <;> decide
  have noQuote : isQuote c = false := by rcases feed with rfl | rfl <;> decide
  cases within with
  | code =>
    rcases feed with rfl | rfl <;> exact .plain noQuote (by decide) (by decide) tail
  | single quote => exact .insideSingle noSlash (quote_ne quoted noQuote).symm tail
  | triple quote =>
    refine .insideTriple noSlash (fun starts => ?_) tail
    exact quote_ne quoted noQuote (List.cons_prefix_cons.1 starts).1

/-- A carriage return ends a line, alone or with the line feed behind it. -/
theorem Enclosed.unifyReturn {depth : Nat} {within : Within} {rest : List Char}
    (tail : Enclosed depth within (unifyLines rest)) (quoted : within.Quoted) :
    Enclosed depth within (unifyLines ('\r' :: rest)) := by
  rcases unifyLines_return rest with same | ⟨more, rfl, same⟩
  · rw [same]
    exact tail.feedAhead quoted (.inl rfl)
  · rw [same]
    exact tail

/-- Of an escaped carriage return and the line feed behind it, the line feed stays escaped. -/
theorem Enclosed.unifyEscaped {depth : Nat} {within : Within} {rest : List Char}
    (escaped : ∀ d rest, Enclosed depth within rest → Enclosed depth within ('\\' :: d :: rest))
    (tail : Enclosed depth within (unifyLines rest)) (quoted : within.Quoted) (d : Char) :
    Enclosed depth within (unifyLines ('\\' :: d :: rest)) := by
  rw [unifyLines_cons (by decide)]
  by_cases noReturn : d = '\r'
  · subst noReturn
    rcases unifyLines_return rest with same | ⟨more, rfl, same⟩
    · rw [same]
      exact escaped _ _ tail
    · rw [same]
      rw [unifyLines_cons (by decide)] at tail
      exact escaped _ _ (tail.behindFeed quoted)
  · rw [unifyLines_cons noReturn]
    exact escaped _ _ tail

theorem unifyLines_quotes {quote : Char} (quoted : isQuote quote = true) (rest : List Char) :
    unifyLines (quote :: quote :: quote :: rest) =
      quote :: quote :: quote :: unifyLines rest := by
  have noReturn := quote_ne (d := '\r') quoted (by decide)
  rw [unifyLines_cons noReturn, unifyLines_cons noReturn, unifyLines_cons noReturn]

/-- Line ends have no influence on where a text is closed. -/
theorem enclosed_unifyLines {depth : Nat} {within : Within} {contents : List Char}
    (enclosed : Enclosed depth within contents) (quoted : within.Quoted) :
    Enclosed depth within (unifyLines contents) := by
  induction enclosed with
  | done => exact .done
  | openTriple quote tail ih =>
    rw [unifyLines_quotes quote]
    exact .openTriple quote (ih quote)
  | openSingle quote lone tail ih =>
    rw [unifyLines_cons (quote_ne quote (by decide))]
    refine .openSingle quote (fun starts => lone (prefix_of_prefix_unifyLines ?_ starts)) (ih quote)
    simpa using (quote_ne quote (by decide)).symm
  | openBracket tail ih =>
    rw [unifyLines_cons (by decide)]
    exact .openBracket (ih trivial)
  | closeBracket tail ih =>
    rw [unifyLines_cons (by decide)]
    exact .closeBracket (ih trivial)
  | @plain depth c rest noQuote noOpen noClose tail ih =>
    by_cases noReturn : c = '\r'
    · subst noReturn
      exact .unifyReturn (ih trivial) trivial
    · rw [unifyLines_cons noReturn]
      exact .plain noQuote noOpen noClose (ih trivial)
  | escapedSingle tail ih =>
    exact .unifyEscaped (fun _ _ => .escapedSingle) (ih quoted) quoted _
  | closeSingle tail ih =>
    rw [unifyLines_cons (quote_ne quoted (by decide))]
    exact .closeSingle (ih trivial)
  | @insideSingle depth quote c rest noSlash noQuote tail ih =>
    by_cases noReturn : c = '\r'
    · subst noReturn
      exact .unifyReturn (ih quoted) quoted
    · rw [unifyLines_cons noReturn]
      exact .insideSingle noSlash noQuote (ih quoted)
  | escapedTriple tail ih =>
    exact .unifyEscaped (fun _ _ => .escapedTriple) (ih quoted) quoted _
  | closeTriple tail ih =>
    rw [unifyLines_quotes quoted]
    exact .closeTriple (ih trivial)
  | @insideTriple depth quote c rest noSlash goesOn tail ih =>
    by_cases noReturn : c = '\r'
    · subst noReturn
      exact .unifyReturn (ih quoted) quoted
    · rw [unifyLines_cons noReturn]
      refine .insideTriple noSlash (fun starts => goesOn ?_) (ih quoted)
      rw [List.cons_prefix_cons] at starts ⊢
      refine ⟨starts.1, prefix_of_prefix_unifyLines ?_ starts.2⟩
      simpa using (quote_ne (d := '\n') quoted (by decide)).symm

/-! ### Texts -/

theorem singleBody_cons {quote c : Char} (noSlash : c ≠ '\\') (rest : List Char) :
    singleBody quote (c :: rest) =
      if c = quote then some ([], rest)
      else if c = '\n' then none
      else (singleBody quote rest).map fun r => (c :: r.1, r.2) := by
  rw [singleBody]
  exact fun _ _ slash => absurd slash noSlash

theorem tripleBody_cons {quote c : Char} (noSlash : c ≠ '\\') (rest : List Char) :
    tripleBody quote (c :: rest) =
      if c = quote && (quote :: quote :: []).isPrefixOf rest then some ([], rest.drop 2)
      else (tripleBody quote rest).map fun r => (c :: r.1, r.2) := by
  rw [tripleBody]
  exact fun _ _ slash => absurd slash noSlash

/-- The lexer closes a text in single quotes where the search does. -/
theorem enclosed_of_singleBody {depth : Nat} {quote : Char} {contents body after : List Char}
    (enclosed : Enclosed depth (.single quote) contents) (quoted : isQuote quote = true)
    (read : singleBody quote (contents ++ [')']) = some (body, after)) :
    ∃ inner, after = inner ++ [')'] ∧ inner <:+ contents ∧ Enclosed depth .code inner := by
  generalize same : Within.single quote = within at enclosed
  induction enclosed generalizing body with
  | @escapedSingle depth quote d rest tail ih =>
    cases same
    rw [List.cons_append, List.cons_append, singleBody] at read
    obtain ⟨⟨more, behind⟩, readMore, made⟩ := Option.map_eq_some_iff.1 read
    cases made
    obtain ⟨inner, rfl, later, enclosed⟩ := ih readMore rfl
    exact ⟨inner, rfl, later.trans ⟨['\\', d], rfl⟩, enclosed⟩
  | @closeSingle depth quote rest tail ih =>
    cases same
    rw [List.cons_append, singleBody_cons (quote_ne quoted (by decide)), if_pos rfl] at read
    cases read
    exact ⟨rest, rfl, List.suffix_cons _ _, tail⟩
  | @insideSingle depth quote c rest noSlash noQuote tail ih =>
    cases same
    rw [List.cons_append, singleBody_cons noSlash, if_neg noQuote] at read
    split at read
    · cases read
    obtain ⟨⟨more, behind⟩, readMore, made⟩ := Option.map_eq_some_iff.1 read
    cases made
    obtain ⟨inner, rfl, later, enclosed⟩ := ih readMore rfl
    exact ⟨inner, rfl, later.trans (List.suffix_cons _ _), enclosed⟩
  | _ => cases same

/-- The lexer closes a text in three quotes where the search does. -/
theorem enclosed_of_tripleBody {depth : Nat} {quote : Char} {contents body after : List Char}
    (enclosed : Enclosed depth (.triple quote) contents) (quoted : isQuote quote = true)
    (read : tripleBody quote (contents ++ [')']) = some (body, after)) :
    ∃ inner, after = inner ++ [')'] ∧ inner <:+ contents ∧ Enclosed depth .code inner := by
  generalize same : Within.triple quote = within at enclosed
  induction enclosed generalizing body with
  | @escapedTriple depth quote d rest tail ih =>
    cases same
    rw [List.cons_append, List.cons_append, tripleBody] at read
    obtain ⟨⟨more, behind⟩, readMore, made⟩ := Option.map_eq_some_iff.1 read
    cases made
    obtain ⟨inner, rfl, later, enclosed⟩ := ih readMore rfl
    exact ⟨inner, rfl, later.trans ⟨['\\', d], rfl⟩, enclosed⟩
  | @closeTriple depth quote rest tail ih =>
    cases same
    rw [List.cons_append, tripleBody_cons (quote_ne quoted (by decide)), if_pos (by simp)] at read
    cases read
    exact ⟨rest, rfl, ⟨[quote, quote, quote], rfl⟩, tail⟩
  | @insideTriple depth quote c rest noSlash goesOn tail ih =>
    cases same
    have unclosed := not_quotes_prefix_append quoted (by simp) goesOn []
    rw [List.cons_append] at unclosed read
    rw [tripleBody_cons noSlash, if_neg ?_] at read
    · obtain ⟨⟨more, behind⟩, readMore, made⟩ := Option.map_eq_some_iff.1 read
      cases made
      obtain ⟨inner, rfl, later, enclosed⟩ := ih readMore rfl
      exact ⟨inner, rfl, later.trans (List.suffix_cons _ _), enclosed⟩
    · rw [Bool.and_eq_true, decide_eq_true_eq, List.isPrefixOf_iff_prefix]
      rintro ⟨rfl, starts⟩
      exact unclosed (List.cons_prefix_cons.2 ⟨rfl, starts⟩)
  | _ => cases same

/-- The lexer closes a text where the search does. -/
theorem enclosed_of_readBody {depth : Nat} {quote : Char} {contents body after : List Char}
    (enclosed : Enclosed depth .code (quote :: contents)) (quoted : isQuote quote = true)
    (read : readBody quote (contents ++ [')']) = some (body, after)) :
    ∃ inner, after = inner ++ [')'] ∧ inner <:+ contents ∧ Enclosed depth .code inner := by
  cases enclosed with
  | @openTriple _ _ rest _ tail =>
    have triple : tripleBody quote (rest ++ [')']) = some (body, after) := by
      simpa [readBody] using read
    obtain ⟨inner, same, later, enclosed⟩ := enclosed_of_tripleBody tail quoted triple
    exact ⟨inner, same, later.trans ((List.suffix_cons _ _).trans (List.suffix_cons _ _)), enclosed⟩
  | openSingle _ lone tail =>
    have alone := not_quotes_prefix_append quoted (by simp) lone []
    unfold readBody at read
    split at read
    · rename_i a b rest same
      split at read
      · rename_i first
        subst first
        rw [same] at alone
        have next : b ≠ a := by
          rintro rfl
          exact alone ⟨rest, rfl⟩
        rw [if_neg next] at read
        cases read
        -- The text is empty, and its two quotes are all that is taken.
        cases contents with
        | nil => cases same
        | cons c inner =>
          obtain ⟨rfl, rest⟩ := List.cons.inj same
          refine ⟨inner, rest.symm, List.suffix_cons _ _, ?_⟩
          cases tail with
          | escapedSingle => exact absurd rfl (quote_ne quoted (by decide))
          | closeSingle tail => exact tail
          | insideSingle _ noQuote => exact absurd rfl noQuote
      · exact enclosed_of_singleBody tail quoted read
    · exact enclosed_of_singleBody tail quoted read
  | openBracket | closeBracket => exact absurd rfl (quote_ne quoted (by decide))
  | plain noQuote =>
    rw [quoted] at noQuote
    cases noQuote

/-! ### What the constructor's bracket closes -/

/-- A character that does not change how many brackets and texts are open. -/
def IsOrdinary (c : Char) : Prop := isQuote c = false ∧ c ≠ '(' ∧ c ≠ ')'

instance (c : Char) : Decidable (IsOrdinary c) :=
  inferInstanceAs (Decidable (isQuote c = false ∧ c ≠ '(' ∧ c ≠ ')'))

/-- The rest of a call at whose end the constructor's bracket is closed, where `depth` further
brackets are open, without a comment. -/
def Finishes (depth : Nat) (source : List Char) : Prop :=
  ∃ contents, source = contents ++ [')'] ∧ '#' ∉ contents ∧ Enclosed depth .code contents

theorem finishes_cons {depth : Nat} {c : Char} {rest : List Char} :
    Finishes depth (c :: rest) ↔ (depth = 0 ∧ c = ')' ∧ rest = []) ∨
      ∃ contents, rest = contents ++ [')'] ∧ c ≠ '#' ∧ '#' ∉ contents ∧
        Enclosed depth .code (c :: contents) := by
  constructor
  · rintro ⟨contents, same, uncommented, enclosed⟩
    cases contents with
    | nil =>
      obtain ⟨rfl, rfl⟩ := List.cons.inj same
      cases enclosed
      exact .inl ⟨rfl, rfl, rfl⟩
    | cons d contents =>
      obtain ⟨rfl, rfl⟩ := List.cons.inj same
      rw [List.mem_cons, not_or] at uncommented
      exact .inr ⟨contents, rfl, Ne.symm uncommented.1, uncommented.2, enclosed⟩
  · rintro (⟨rfl, rfl, rfl⟩ | ⟨contents, rfl, noSign, uncommented, enclosed⟩)
    · exact ⟨[], rfl, by simp, .done⟩
    · refine ⟨c :: contents, rfl, ?_, enclosed⟩
      rw [List.mem_cons, not_or]
      exact ⟨Ne.symm noSign, uncommented⟩

theorem Finishes.pass {depth : Nat} {c : Char} {rest : List Char} (ordinary : IsOrdinary c)
    (finishes : Finishes depth (c :: rest)) : Finishes depth rest := by
  obtain ⟨noQuote, noOpen, noClose⟩ := ordinary
  obtain ⟨-, rfl, -⟩ | ⟨contents, rfl, -, uncommented, enclosed⟩ := finishes_cons.1 finishes
  · exact absurd rfl noClose
  · refine ⟨contents, rfl, uncommented, ?_⟩
    cases enclosed with
    | openTriple quote | openSingle quote =>
      rw [noQuote] at quote
      cases quote
    | openBracket => exact absurd rfl noOpen
    | closeBracket => exact absurd rfl noClose
    | plain _ _ _ tail => exact tail

theorem Finishes.passAll {depth : Nat} {used rest : List Char}
    (finishes : Finishes depth (used ++ rest)) (ordinary : ∀ c ∈ used, IsOrdinary c) :
    Finishes depth rest := by
  induction used with
  | nil => exact finishes
  | cons c used ih =>
    refine ih (finishes.pass (ordinary c List.mem_cons_self)) fun d member => ?_
    exact ordinary d (List.mem_cons_of_mem c member)

theorem Finishes.openBracket {depth : Nat} {rest : List Char}
    (finishes : Finishes depth ('(' :: rest)) : Finishes (depth + 1) rest := by
  obtain ⟨-, impossible, -⟩ | ⟨contents, rfl, -, uncommented, enclosed⟩ :=
    finishes_cons.1 finishes
  · cases impossible
  · refine ⟨contents, rfl, uncommented, ?_⟩
    cases enclosed with
    | openTriple quote | openSingle quote => cases quote
    | openBracket tail => exact tail
    | plain _ noOpen => exact absurd rfl noOpen

theorem Finishes.closeBracket {depth : Nat} {rest : List Char}
    (finishes : Finishes depth (')' :: rest)) :
    (depth = 0 ∧ rest = []) ∨ ∃ outer, depth = outer + 1 ∧ Finishes outer rest := by
  obtain ⟨none, -, ended⟩ | ⟨contents, rfl, -, uncommented, enclosed⟩ := finishes_cons.1 finishes
  · exact .inl ⟨none, ended⟩
  · cases enclosed with
    | openTriple quote | openSingle quote => cases quote
    | @closeBracket outer _ tail => exact .inr ⟨outer, rfl, contents, rfl, uncommented, tail⟩
    | plain _ _ noClose => exact absurd rfl noClose

theorem Finishes.text {depth : Nat} {quote : Char} {source body after : List Char}
    (finishes : Finishes depth (quote :: source)) (quoted : isQuote quote = true)
    (read : readBody quote source = some (body, after)) : Finishes depth after := by
  obtain ⟨-, rfl, -⟩ | ⟨contents, rfl, -, uncommented, enclosed⟩ := finishes_cons.1 finishes
  · cases quoted
  · obtain ⟨inner, rfl, later, enclosed⟩ := enclosed_of_readBody enclosed quoted read
    exact ⟨inner, rfl, fun member => uncommented (later.mem member), enclosed⟩

theorem not_finishes_comment (depth : Nat) (rest : List Char) : ¬ Finishes depth ('#' :: rest) := by
  intro finishes
  obtain ⟨-, impossible, -⟩ | ⟨contents, -, noSign, -⟩ := finishes_cons.1 finishes
  · cases impossible
  · exact noSign rfl

/-! ### Symbols -/

theorem ordinary_of_isNameChar {c : Char} (letter : isNameChar c = true) : IsOrdinary c := by
  have other {d : Char} (noLetter : isNameChar d = false) : c ≠ d := by
    rintro rfl
    rw [letter] at noLetter
    cases noLetter
  refine ⟨?_, other (by decide), other (by decide)⟩
  simp [isQuote, other (d := '\'') (by decide), other (d := '"') (by decide)]

theorem ordinary_of_isNumberChar {c : Char} (used : IsNumberChar c) : IsOrdinary c := by
  rcases used with letter | rfl | rfl | rfl
  · exact ordinary_of_isNameChar letter
  · decide
  · decide
  · decide

theorem append_of_readSymbol? {source : List Char} {s : String}
    (found : readSymbol? source = some s) :
    s ∈ symbols ∧ source = s.toList ++ source.drop s.length := by
  have starts := List.find?_some found
  rw [List.isPrefixOf_iff_prefix] at starts
  obtain ⟨rest, rfl⟩ := starts
  refine ⟨List.mem_of_find?_eq_some found, ?_⟩
  rw [← String.length_toList, List.drop_left]

theorem ordinary_of_readSymbol? {source : List Char} {s : String}
    (found : readSymbol? source = some s) (noRound : s ≠ "(" ∧ s ≠ ")") :
    ∀ c ∈ s.toList, IsOrdinary c := by
  have ordinary : (symbols.all fun s => s == "(" || s == ")" ||
      s.toList.all fun c => decide (IsOrdinary c)) = true := by decide
  have chars := List.all_eq_true.1 ordinary s (append_of_readSymbol? found).1
  simpa only [beq_eq_false_iff_ne.2 noRound.1, beq_eq_false_iff_ne.2 noRound.2, Bool.false_or,
    List.all_eq_true, decide_eq_true_eq] using chars

theorem Finishes.symbol {depth : Nat} {source : List Char} {s : String}
    (finishes : Finishes depth source) (found : readSymbol? source = some s)
    (noRound : s ≠ "(" ∧ s ≠ ")") : Finishes depth (source.drop s.length) := by
  rw [(append_of_readSymbol? found).2] at finishes
  exact finishes.passAll (ordinary_of_readSymbol? found noRound)

theorem eq_nil_of_lexed_nil {lexemes : List Lexeme} (lexed : Lexed [] [] lexemes) :
    lexemes = [] := by
  have none : readSymbol? [] = none := by decide
  cases lexed with
  | done => rfl
  | opening found | symbol found =>
    rw [none] at found
    cases found

theorem closingBracket?_cases {s close : String} (opens : closingBracket? s = some close) :
    (s = "(" ∧ close = ")") ∨ ((s ≠ "(" ∧ s ≠ ")") ∧ close ≠ ")") := by
  unfold closingBracket? at opens
  split at opens
  · cases opens
    exact .inl ⟨‹_›, rfl⟩
  split at opens
  · rename_i bracket
    subst bracket
    cases opens
    exact .inr (by decide)
  split at opens
  · rename_i bracket
    subst bracket
    cases opens
    exact .inr (by decide)
  · cases opens

theorem ne_opening_of_isClosing {s : String} (closes : isClosing s = true) : s ≠ "(" := by
  rintro rfl
  cases closes

theorem noRound_of_isPlain {s : String} (plain : IsPlain s) : s ≠ "(" ∧ s ≠ ")" := by
  constructor
  · rintro rfl
    cases plain.1
  · rintro rfl
    cases plain.2

theorem Finishes.dropWhile {depth : Nat} {source : List Char} (finishes : Finishes depth source) :
    Finishes depth (source.dropWhile isNameChar) := by
  induction source with
  | nil => exact finishes
  | cons c rest ih =>
    rw [List.dropWhile_cons]
    by_cases letter : isNameChar c = true
    · rw [if_pos letter]
      exact ih (finishes.pass (ordinary_of_isNameChar letter))
    · rw [if_neg letter]
      exact finishes

theorem Finishes.name {depth : Nat} {c : Char} {rest : List Char}
    (finishes : Finishes depth (c :: rest)) (letter : isNameChar c = true) :
    Finishes depth (rest.dropWhile isNameChar) :=
  (finishes.pass (ordinary_of_isNameChar letter)).dropWhile

/-- The search counts a round bracket and passes over the other ones. -/
theorem Finishes.opening {upper : List String} {source : List Char} {s close : String}
    (finishes : Finishes (upper.count ")") source) (found : readSymbol? source = some s)
    (opens : closingBracket? s = some close) :
    Finishes ((close :: upper).count ")") (source.drop s.length) := by
  rcases closingBracket?_cases opens with ⟨rfl, rfl⟩ | ⟨noRound, other⟩
  · rw [(append_of_readSymbol? found).2] at finishes
    rw [List.count_cons_self]
    exact finishes.openBracket
  · rw [List.count_cons_of_ne other]
    exact finishes.symbol found noRound

theorem Finishes.closing {upper : List String} {source : List Char} {s : String}
    (finishes : Finishes ((s :: upper).count ")") source) (found : readSymbol? source = some s)
    (closes : isClosing s = true) : Finishes (upper.count ")") (source.drop s.length) := by
  by_cases round : s = ")"
  · subst round
    rw [(append_of_readSymbol? found).2, List.count_cons_self] at finishes
    obtain ⟨impossible, -⟩ | ⟨outer, counted, later⟩ := finishes.closeBracket
    · cases impossible
    · cases counted
      exact later
  · rw [List.count_cons_of_ne round] at finishes
    exact finishes.symbol found ⟨ne_opening_of_isClosing closes, round⟩

/-- Without a comment, nothing but line ends stands behind the bracket that closes the
constructor's. The search counts the round brackets among those that the lexer awaits above it. -/
theorem closesLast_of_lexed {brackets : List String} {source : List Char} {lexemes : List Lexeme}
    (lexed : Lexed brackets source lexemes) (upper : List String)
    (bottom : brackets = upper ++ [")"]) (finishes : Finishes (upper.count ")") source) :
    ClosesLast brackets lexemes := by
  have filled : brackets ≠ [] := by simp [bottom]
  induction lexed generalizing upper with
  | done | lineEnd => exact absurd rfl filled
  | passed blank tail ih =>
    refine ih upper bottom (finishes.pass ?_) filled
    rcases blank with rfl | rfl | rfl | rfl <;> decide
  | comment tail ih => exact absurd finishes (not_finishes_comment _ _)
  | joined tail ih =>
    exact ih upper bottom ((finishes.pass (by decide)).pass (by decide)) filled
  | number starts read tail ih =>
    obtain ⟨used, same, allowed⟩ := spent_readNumber read
    rw [same] at finishes
    have later := finishes.passAll fun c member => ordinary_of_isNumberChar (allowed c member)
    exact closesLast_noSymbol (by simp) filled (ih upper bottom later filled)
  | text quoted read noSymbol tail ih =>
    exact closesLast_noSymbol noSymbol filled (ih upper bottom (finishes.text quoted read) filled)
  | marked letter marks quoted read noSymbol tail ih =>
    have text := finishes.name letter
    rw [marks] at text
    exact closesLast_noSymbol noSymbol filled (ih upper bottom (text.text quoted read) filled)
  | name letter tail ih =>
    exact closesLast_noSymbol (by simp) filled (ih upper bottom (finishes.name letter) filled)
  | @opening brackets source lexemes s close line found opens tail ih =>
    refine closesLast_opening opens filled
      (ih (close :: upper) ?_ (finishes.opening found opens) (List.cons_ne_nil _ _))
    rw [bottom]
    rfl
  | @closing brackets source lexemes s line found closes tail ih =>
    refine closesLast_closing closes ?_
    cases upper with
    | nil =>
      -- Nothing is awaited but the constructor's bracket, so this is where the search stopped.
      obtain ⟨rfl, rfl⟩ := List.cons.inj bottom
      rw [(append_of_readSymbol? found).2] at finishes
      obtain ⟨-, none⟩ | ⟨outer, impossible, -⟩ := finishes.closeBracket
      · rw [show source.drop ")".length = [] from none] at tail
        rw [eq_nil_of_lexed_nil tail]
        exact ⟨[], rfl, by simp [Ended]⟩
      · cases impossible
    | cons top upper =>
      obtain ⟨rfl, rfl⟩ := List.cons.inj bottom
      exact ih upper rfl (finishes.closing found closes) (by simp)
  | symbol found plain tail ih =>
    have later := finishes.symbol found (noRound_of_isPlain plain)
    exact closesLast_plain plain filled (ih upper bottom later filled)

end TypstMarkup.Template
