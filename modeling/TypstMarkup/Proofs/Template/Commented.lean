import TypstMarkup.Proofs.Template.Uncommented

/-!
Comments in contents. The lexer passes over them, while the search for the closing bracket of a
splice counts the quotes and brackets in them. Where they hold none, the search ends at the bracket
that the lexer takes for the constructor's.
-/
namespace TypstMarkup.Template

open Expression

/-! ### Comments -/

/-- The comments of a source whose next `skip` characters belong to a comment or to a text. -/
def commentsFrom : Nat → List Char → List (List Char)
  | _, [] => []
  | skip + 1, _ :: rest => commentsFrom skip rest
  | 0, c :: rest =>
    if c = '#' then
      let comment := rest.takeWhile (· != '\n')
      comment :: commentsFrom comment.length rest
    else if isQuote c then
      match readBody c rest with
      | some (_, after) => commentsFrom (rest.length - after.length) rest
      | none => []
    else commentsFrom 0 rest

/-- The comments of a source: from each number sign outside texts to the end of its line. -/
def comments (source : List Char) : List (List Char) :=
  commentsFrom 0 (unifyLines source)

/-- Comments without quotes and round brackets. -/
def Quiet (comments : List (List Char)) : Prop :=
  ∀ comment ∈ comments, ∀ c ∈ comment, IsOrdinary c

instance (comments : List (List Char)) : Decidable (Quiet comments) :=
  @List.decidableBAll _ _ (List.decidableBAll IsOrdinary) comments

theorem quiet_cons {comment : List Char} {comments : List (List Char)} :
    Quiet (comment :: comments) ↔ (∀ c ∈ comment, IsOrdinary c) ∧ Quiet comments := by
  simp [Quiet]

theorem commentsFrom_skip (skipped rest : List Char) :
    commentsFrom skipped.length (skipped ++ rest) = commentsFrom 0 rest := by
  induction skipped with
  | nil => rfl
  | cons c skipped ih => exact ih

/-- A character that starts neither a comment nor a text. -/
def IsSilent (c : Char) : Prop := c ≠ '#' ∧ isQuote c = false

instance (c : Char) : Decidable (IsSilent c) :=
  inferInstanceAs (Decidable (c ≠ '#' ∧ isQuote c = false))

theorem commentsFrom_append {used : List Char} (silent : ∀ c ∈ used, IsSilent c)
    (rest : List Char) : commentsFrom 0 (used ++ rest) = commentsFrom 0 rest := by
  induction used with
  | nil => rfl
  | cons c used ih =>
    have first := silent c List.mem_cons_self
    have later := ih fun d member => silent d (List.mem_cons_of_mem c member)
    simpa [commentsFrom, first.1, first.2] using later

theorem commentsFrom_comment (rest : List Char) :
    commentsFrom 0 ('#' :: rest) =
      rest.takeWhile (· != '\n') :: commentsFrom 0 (rest.dropWhile (· != '\n')) := by
  have skip := commentsFrom_skip (rest.takeWhile (· != '\n')) (rest.dropWhile (· != '\n'))
  rw [List.takeWhile_append_dropWhile] at skip
  simp only [commentsFrom, ↓reduceIte, skip]

theorem commentsFrom_text {quote : Char} {used body after : List Char}
    (quoted : isQuote quote = true) (read : readBody quote (used ++ after) = some (body, after)) :
    commentsFrom 0 (quote :: (used ++ after)) = commentsFrom 0 after := by
  have other : quote ≠ '#' := quote_ne quoted (by decide)
  have length : (used ++ after).length - after.length = used.length := by simp
  rw [commentsFrom, if_neg other, if_pos quoted, read]
  simp only [length, commentsFrom_skip]

/-! ### Texts -/

/-- What the lexer takes for the end of a text in single quotes is one for the search. -/
theorem enclosed_behind_singleBody {quote : Char} {source body after : List Char}
    (read : singleBody quote source = some (body, after)) :
    ∃ used, source = used ++ quote :: after ∧ ∀ depth inner, Enclosed depth .code inner →
      Enclosed depth (.single quote) (used ++ quote :: inner) := by
  fun_induction singleBody quote source generalizing body with
  | case1 => cases read
  | case2 c rest ih =>
    obtain ⟨⟨more, behind⟩, readMore, made⟩ := Option.map_eq_some_iff.1 read
    cases made
    obtain ⟨used, rfl, enclosed⟩ := ih readMore
    exact ⟨'\\' :: c :: used, rfl, fun depth inner tail => .escapedSingle (enclosed _ _ tail)⟩
  | case3 rest =>
    cases read
    exact ⟨[], rfl, fun depth inner tail => .closeSingle tail⟩
  | case4 => cases read
  | case5 c rest noEscape noQuote noFeed ih =>
    obtain ⟨⟨more, behind⟩, readMore, made⟩ := Option.map_eq_some_iff.1 read
    cases made
    obtain ⟨used, rfl, enclosed⟩ := ih readMore
    refine ⟨c :: used, rfl, fun depth inner tail => .insideSingle ?_ noQuote (enclosed _ _ tail)⟩
    rintro rfl
    cases used with
    | nil => exact noEscape _ _ rfl rfl
    | cons d used => exact noEscape _ _ rfl rfl

theorem pair_prefix_iff {quote : Char} (used rest other : List Char) :
    [quote, quote] <+: used ++ quote :: quote :: quote :: rest ↔
      [quote, quote] <+: used ++ quote :: quote :: quote :: other := by
  cases used with
  | nil => simp
  | cons a used => cases used <;> simp

/-- What the lexer takes for the end of a text in three quotes is one for the search. -/
theorem enclosed_behind_tripleBody {quote : Char} {source body after : List Char}
    (read : tripleBody quote source = some (body, after)) :
    ∃ used, source = used ++ quote :: quote :: quote :: after ∧
      ∀ depth inner, Enclosed depth .code inner →
        Enclosed depth (.triple quote) (used ++ quote :: quote :: quote :: inner) := by
  fun_induction tripleBody quote source generalizing body with
  | case1 => cases read
  | case2 c rest ih =>
    obtain ⟨⟨more, behind⟩, readMore, made⟩ := Option.map_eq_some_iff.1 read
    cases made
    obtain ⟨used, rfl, enclosed⟩ := ih readMore
    exact ⟨'\\' :: c :: used, rfl, fun depth inner tail => .escapedTriple (enclosed _ _ tail)⟩
  | case3 c rest noEscape ends =>
    cases read
    rw [Bool.and_eq_true, decide_eq_true_eq, List.isPrefixOf_iff_prefix] at ends
    obtain ⟨rfl, rest, rfl⟩ := ends
    exact ⟨[], rfl, fun depth inner tail => .closeTriple tail⟩
  | case4 c rest noEscape goesOn ih =>
    obtain ⟨⟨more, behind⟩, readMore, made⟩ := Option.map_eq_some_iff.1 read
    cases made
    obtain ⟨used, rfl, enclosed⟩ := ih readMore
    refine ⟨c :: used, rfl, fun depth inner tail => .insideTriple ?_ ?_ (enclosed _ _ tail)⟩
    · rintro rfl
      cases used with
      | nil => exact noEscape _ _ rfl rfl
      | cons d used => exact noEscape _ _ rfl rfl
    · intro starts
      rw [List.cons_prefix_cons] at starts
      rw [Bool.and_eq_true, decide_eq_true_eq, List.isPrefixOf_iff_prefix] at goesOn
      exact goesOn ⟨starts.1.symm, (pair_prefix_iff used _ _).1 starts.2⟩

/-- What the lexer takes for the end of a text is one for the search, if a bracket ends both. -/
theorem enclosed_behind_readBody {quote : Char} {source body after : List Char}
    (quoted : isQuote quote = true) (read : readBody quote source = some (body, after)) :
    ∃ used, source = used ++ quote :: after ∧
      ∀ depth inner, after = inner ++ [')'] → Enclosed depth .code inner →
        Enclosed depth .code (quote :: (used ++ quote :: inner)) := by
  have single (first : source.head? ≠ some quote)
      (read : singleBody quote source = some (body, after)) :
      ∃ used, source = used ++ quote :: after ∧
        ∀ depth inner, after = inner ++ [')'] → Enclosed depth .code inner →
          Enclosed depth .code (quote :: (used ++ quote :: inner)) := by
    obtain ⟨used, rfl, enclosed⟩ := enclosed_behind_singleBody read
    refine ⟨used, rfl, fun depth inner _ tail => .openSingle quoted ?_ (enclosed _ _ tail)⟩
    cases used with
    | nil => exact absurd rfl first
    | cons c used =>
      rw [List.cons_append, List.cons_prefix_cons]
      rintro ⟨rfl, -⟩
      exact first rfl
  unfold readBody at read
  split at read
  · rename_i a b rest
    split at read
    · rename_i same
      subst same
      split at read
      · rename_i same
        subst same
        obtain ⟨used, rfl, enclosed⟩ := enclosed_behind_tripleBody read
        refine ⟨b :: b :: used ++ [b, b], by simp, fun depth inner _ tail => ?_⟩
        simpa using Enclosed.openTriple quoted (enclosed _ _ tail)
      · rename_i differ
        cases read
        refine ⟨[], rfl, fun depth inner last tail => .openSingle quoted ?_ (.closeSingle tail)⟩
        rw [List.nil_append, List.cons_prefix_cons]
        rintro ⟨-, more, rfl⟩
        exact differ (List.cons.inj last).1
    · rename_i differ
      exact single (by simpa using differ) read
  · rename_i short
    by_cases first : source.head? = some quote
    · -- The quote is all there is, and no bracket follows.
      obtain ⟨rest, rfl⟩ := List.head?_eq_some_iff.1 first
      cases rest with
      | nil =>
        rw [singleBody_cons (quote_ne quoted (by decide)), if_pos rfl] at read
        cases read
        exact ⟨[], rfl, fun depth inner last => by simp at last⟩
      | cons b rest => exact absurd rfl (short _ _ _)
    · exact single first read

/-! ### Sources with quiet comments -/

/-- A source that a closing bracket ends, with comments that the search can pass over. -/
def Calm (source : List Char) : Prop :=
  source.getLast? = some ')' ∧ Quiet (commentsFrom 0 source)

theorem last_of_append {used rest : List Char} {c : Char} (filled : rest ≠ [])
    (last : (used ++ rest).getLast? = some c) : rest.getLast? = some c := by
  obtain ⟨d, more, rfl⟩ := List.exists_cons_of_ne_nil filled
  rw [List.getLast?_append, List.getLast?_cons, Option.some_or] at last
  rw [List.getLast?_cons, last]

theorem last_behind (used : List Char) {rest : List Char} {c : Char} (absent : c ∉ used.getLast?)
    (last : (used ++ rest).getLast? = some c) : rest.getLast? = some c := by
  refine last_of_append (fun empty => ?_) last
  rw [empty, List.append_nil] at last
  exact absent last

theorem Calm.behind {used rest : List Char} (calm : Calm (used ++ rest))
    (silent : ∀ c ∈ used, IsSilent c) (filled : rest ≠ []) : Calm rest := by
  obtain ⟨last, quiet⟩ := calm
  rw [commentsFrom_append silent] at quiet
  exact ⟨last_of_append filled last, quiet⟩

theorem Calm.passAll {used rest : List Char} (calm : Calm (used ++ rest))
    (plain : ∀ c ∈ used, IsOrdinary c ∧ c ≠ '#') : Calm rest := by
  refine calm.behind (fun c member => ⟨(plain c member).2, (plain c member).1.1⟩) ?_
  rintro rfl
  obtain ⟨last, -⟩ := calm
  rw [List.append_nil] at last
  exact (plain _ (List.mem_of_getLast? last)).1.2.2 rfl

theorem Calm.pass {c : Char} {rest : List Char} (calm : Calm (c :: rest))
    (plain : IsOrdinary c ∧ c ≠ '#') : Calm rest := by
  have single : ∀ d ∈ [c], IsOrdinary d ∧ d ≠ '#' := fun d member => by
    rwa [List.mem_singleton.1 member]
  exact Calm.passAll calm single

theorem Calm.comment {rest : List Char} (calm : Calm ('#' :: rest)) :
    (∀ c ∈ rest.takeWhile (· != '\n'), IsOrdinary c) ∧ Calm (rest.dropWhile (· != '\n')) := by
  obtain ⟨last, quiet⟩ := calm
  rw [commentsFrom_comment, quiet_cons] at quiet
  refine ⟨quiet.1, last_behind ('#' :: rest.takeWhile (· != '\n')) ?_ ?_, quiet.2⟩
  · intro bracket
    rcases List.mem_cons.1 (List.mem_of_getLast? bracket) with impossible | member
    · cases impossible
    · exact (quiet.1 _ member).2.2 rfl
  · rwa [List.cons_append, List.takeWhile_append_dropWhile]

theorem Calm.text {quote : Char} {source body after : List Char} (calm : Calm (quote :: source))
    (quoted : isQuote quote = true) (read : readBody quote source = some (body, after)) :
    Calm after := by
  obtain ⟨used, rfl, -⟩ := enclosed_behind_readBody quoted read
  obtain ⟨last, quiet⟩ := calm
  have split : used ++ quote :: after = (used ++ [quote]) ++ after := by simp
  rw [split] at read last quiet
  rw [commentsFrom_text quoted read] at quiet
  refine ⟨last_behind (quote :: (used ++ [quote])) ?_ last, quiet⟩
  rw [← List.cons_append, List.getLast?_concat, Option.mem_some]
  exact quote_ne quoted (by decide)

theorem plain_of_isNameChar {c : Char} (letter : isNameChar c = true) :
    IsOrdinary c ∧ c ≠ '#' := by
  refine ⟨ordinary_of_isNameChar letter, ?_⟩
  rintro rfl
  cases letter

theorem plain_of_isNumberChar {c : Char} (used : IsNumberChar c) : IsOrdinary c ∧ c ≠ '#' := by
  refine ⟨ordinary_of_isNumberChar used, ?_⟩
  rintro rfl
  rcases used with letter | impossible | impossible | impossible
  · cases letter
  all_goals cases impossible

theorem letters_takeWhile (rest : List Char) : ∀ c ∈ rest.takeWhile isNameChar,
    isNameChar c = true :=
  List.all_eq_true.1 List.all_takeWhile

theorem Calm.name {c : Char} {rest : List Char} (calm : Calm (c :: rest))
    (letter : isNameChar c = true) : Calm (rest.dropWhile isNameChar) := by
  have later := calm.pass (plain_of_isNameChar letter)
  rw [← List.takeWhile_append_dropWhile (p := isNameChar) (l := rest)] at later
  exact later.passAll fun d member => plain_of_isNameChar (letters_takeWhile rest d member)

theorem Calm.symbol {source : List Char} {s : String} (calm : Calm source)
    (found : readSymbol? source = some s) (filled : source.drop s.length ≠ []) :
    Calm (source.drop s.length) := by
  obtain ⟨member, same⟩ := append_of_readSymbol? found
  have silent : ∀ s ∈ symbols, s.toList.all (IsSilent ·) = true := by decide
  rw [same] at calm
  refine calm.behind (fun c within => ?_) filled
  exact of_decide_eq_true (List.all_eq_true.1 (silent s member) c within)

/-! ### Lexemes up to the last bracket -/

/-- A source that a closing bracket ends, where `depth` further ones are awaited before it. -/
def Closable (depth : Nat) (source : List Char) : Prop :=
  ∃ contents, source = contents ++ [')'] ∧ Enclosed depth .code contents

theorem Closable.pass {depth : Nat} {c : Char} {rest : List Char} (tail : Closable depth rest)
    (ordinary : IsOrdinary c) : Closable depth (c :: rest) := by
  obtain ⟨noQuote, noOpen, noClose⟩ := ordinary
  obtain ⟨contents, rfl, enclosed⟩ := tail
  exact ⟨c :: contents, rfl, .plain noQuote noOpen noClose enclosed⟩

theorem Closable.passAll {depth : Nat} {used rest : List Char} (tail : Closable depth rest)
    (ordinary : ∀ c ∈ used, IsOrdinary c) : Closable depth (used ++ rest) := by
  induction used with
  | nil => exact tail
  | cons c used ih =>
    have later := ih fun d member => ordinary d (List.mem_cons_of_mem c member)
    exact later.pass (ordinary c List.mem_cons_self)

theorem Closable.openBracket {depth : Nat} {rest : List Char} (tail : Closable (depth + 1) rest) :
    Closable depth ('(' :: rest) := by
  obtain ⟨contents, rfl, enclosed⟩ := tail
  exact ⟨'(' :: contents, rfl, .openBracket enclosed⟩

theorem Closable.closeBracket {depth : Nat} {rest : List Char} (tail : Closable depth rest) :
    Closable (depth + 1) (')' :: rest) := by
  obtain ⟨contents, rfl, enclosed⟩ := tail
  exact ⟨')' :: contents, rfl, .closeBracket enclosed⟩

theorem Closable.text {depth : Nat} {quote : Char} {source body after : List Char}
    (tail : Closable depth after) (quoted : isQuote quote = true)
    (read : readBody quote source = some (body, after)) : Closable depth (quote :: source) := by
  obtain ⟨used, rfl, enclosed⟩ := enclosed_behind_readBody quoted read
  obtain ⟨contents, last, inner⟩ := tail
  refine ⟨quote :: (used ++ quote :: contents), ?_, enclosed depth contents last inner⟩
  simp [last]

theorem Closable.name {depth : Nat} {c : Char} {rest : List Char}
    (tail : Closable depth (rest.dropWhile isNameChar)) (letter : isNameChar c = true) :
    Closable depth (c :: rest) := by
  have letters := tail.passAll fun d member =>
    ordinary_of_isNameChar (letters_takeWhile rest d member)
  rw [List.takeWhile_append_dropWhile] at letters
  exact letters.pass (ordinary_of_isNameChar letter)

theorem Closable.symbol {depth : Nat} {source : List Char} {s : String}
    (tail : Closable depth (source.drop s.length)) (found : readSymbol? source = some s)
    (noRound : s ≠ "(" ∧ s ≠ ")") : Closable depth source := by
  rw [(append_of_readSymbol? found).2]
  exact tail.passAll (ordinary_of_readSymbol? found noRound)

/-- The search counts a round bracket and passes over the other ones. -/
theorem Closable.opening {upper : List String} {source : List Char} {s close : String}
    (tail : Closable ((close :: upper).count ")") (source.drop s.length))
    (found : readSymbol? source = some s) (opens : closingBracket? s = some close) :
    Closable (upper.count ")") source := by
  rcases closingBracket?_cases opens with ⟨rfl, rfl⟩ | ⟨noRound, other⟩
  · rw [List.count_cons_self] at tail
    rw [(append_of_readSymbol? found).2]
    exact tail.openBracket
  · rw [List.count_cons_of_ne other] at tail
    exact tail.symbol found noRound

theorem Closable.closing {upper : List String} {source : List Char} {s : String}
    (tail : Closable (upper.count ")") (source.drop s.length))
    (found : readSymbol? source = some s) (closes : isClosing s = true) :
    Closable ((s :: upper).count ")") source := by
  by_cases round : s = ")"
  · subst round
    rw [List.count_cons_self, (append_of_readSymbol? found).2]
    exact tail.closeBracket
  · rw [List.count_cons_of_ne round]
    exact tail.symbol found ⟨ne_opening_of_isClosing closes, round⟩

theorem plain_blank {c : Char} (blank : c = ' ' ∨ c = '\t' ∨ c = '\x0c' ∨ c = '\n') :
    IsOrdinary c ∧ c ≠ '#' := by
  rcases blank with rfl | rfl | rfl | rfl <;> decide

/-- Outside all brackets, a bracket at the very end makes a lexeme or stands in a comment. -/
theorem not_calm_of_ended {source : List Char} {lexemes : List Lexeme}
    (lexed : Lexed [] source lexemes) (ended : Ended lexemes) : ¬ Calm source := by
  generalize none : ([] : List String) = brackets at lexed
  intro calm
  induction lexed with
  | done => cases calm.1
  | passed blank tail ih => exact ih ended none (calm.pass (plain_blank blank))
  | lineEnd tail ih =>
    refine ih (fun l member => ended l (List.mem_cons_of_mem _ member)) none ?_
    exact calm.pass (by decide)
  | comment tail ih => exact ih ended none calm.comment.2
  | joined tail ih => exact ih ended none ((calm.pass (by decide)).pass (by decide))
  | text quoted read noSymbol tail ih =>
    refine ih (fun l member => ended l (List.mem_cons_of_mem _ member)) none ?_
    exact calm.text quoted read
  | marked letter marks quoted read noSymbol tail ih =>
    have text := calm.name letter
    rw [marks] at text
    refine ih (fun l member => ended l (List.mem_cons_of_mem _ member)) none ?_
    exact text.text quoted read
  | number | name | opening | closing | symbol => cases ended _ List.mem_cons_self

theorem ne_nil_of_lexed {brackets : List String} {source : List Char} {lexemes : List Lexeme}
    (lexed : Lexed brackets source lexemes) (filled : brackets ≠ []) : source ≠ [] := by
  rintro rfl
  have none : readSymbol? [] = none := by decide
  cases lexed with
  | done => exact filled rfl
  | opening found | closing found | symbol found =>
    rw [none] at found
    cases found

/-- Where the lexer takes the last bracket for the constructor's, the search for it ends there if
the comments hold no quotes and no round brackets. It counts the round brackets among those that the
lexer awaits above it. -/
theorem closable_of_lexed {brackets : List String} {source : List Char} {lexemes : List Lexeme}
    (lexed : Lexed brackets source lexemes) (upper : List String)
    (bottom : brackets = upper ++ [")"]) (ending : ClosesLast brackets lexemes)
    (calm : Calm source) : Closable (upper.count ")") source := by
  have filled : brackets ≠ [] := by simp [bottom]
  induction lexed generalizing upper with
  | done | lineEnd => exact absurd rfl filled
  | passed blank tail ih =>
    have plain := plain_blank blank
    exact (ih upper bottom ending (calm.pass plain) filled).pass plain.1
  | @comment _ rest _ tail ih =>
    obtain ⟨ordinary, later⟩ := calm.comment
    have closable := (ih upper bottom ending later filled).passAll ordinary
    rw [List.takeWhile_append_dropWhile] at closable
    exact closable.pass (by decide)
  | joined tail ih =>
    have later := (calm.pass (by decide)).pass (by decide)
    have closable := ih upper bottom ending later filled
    exact (closable.pass (by decide)).pass (by decide)
  | number starts read tail ih =>
    obtain ⟨used, same, allowed⟩ := spent_readNumber read
    obtain ⟨top, outer, rfl⟩ := List.exists_cons_of_ne_nil filled
    rw [ClosesLast, behind_noSymbol (by simp)] at ending
    rw [same] at calm ⊢
    have later := calm.passAll fun c member => plain_of_isNumberChar (allowed c member)
    exact (ih upper bottom ending later filled).passAll fun c member =>
      ordinary_of_isNumberChar (allowed c member)
  | text quoted read noSymbol tail ih =>
    obtain ⟨top, outer, rfl⟩ := List.exists_cons_of_ne_nil filled
    rw [ClosesLast, behind_noSymbol noSymbol] at ending
    have later := calm.text quoted read
    exact (ih upper bottom ending later filled).text quoted read
  | marked letter marks quoted read noSymbol tail ih =>
    obtain ⟨top, outer, rfl⟩ := List.exists_cons_of_ne_nil filled
    rw [ClosesLast, behind_noSymbol noSymbol] at ending
    have text := calm.name letter
    rw [marks] at text
    have closable := (ih upper bottom ending (text.text quoted read) filled).text quoted read
    rw [← marks] at closable
    exact closable.name letter
  | name letter tail ih =>
    obtain ⟨top, outer, rfl⟩ := List.exists_cons_of_ne_nil filled
    rw [ClosesLast, behind_noSymbol (by simp)] at ending
    exact (ih upper bottom ending (calm.name letter) filled).name letter
  | @opening _ source _ s close _ found opens tail ih =>
    obtain ⟨top, outer, rfl⟩ := List.exists_cons_of_ne_nil filled
    rw [ClosesLast, behind_opening opens] at ending
    have inner : close :: top :: outer ≠ [] := List.cons_ne_nil _ _
    have later := calm.symbol found (ne_nil_of_lexed tail inner)
    have closable := ih (close :: upper) (by rw [bottom]; rfl) ending later inner
    exact closable.opening found opens
  | @closing _ source _ s _ found closes tail ih =>
    rw [ClosesLast, behind_closing closes] at ending
    cases upper with
    | nil =>
      -- The constructor's bracket is closed, and no lexeme but line ends can stand behind it.
      obtain ⟨rfl, rfl⟩ := List.cons.inj bottom
      obtain ⟨ends, none, ended⟩ := ending
      rw [behind_nil] at none
      cases none
      have nothing : source.drop ")".length = [] := by
        by_contra more
        exact not_calm_of_ended tail ended (calm.symbol found more)
      rw [(append_of_readSymbol? found).2, nothing]
      exact ⟨[], rfl, .done⟩
    | cons second upper =>
      obtain ⟨rfl, rfl⟩ := List.cons.inj bottom
      have inner : upper ++ [")"] ≠ [] := by simp
      have later := calm.symbol found (ne_nil_of_lexed tail inner)
      exact (ih upper rfl ending later inner).closing found closes
  | symbol found plain tail ih =>
    obtain ⟨top, outer, rfl⟩ := List.exists_cons_of_ne_nil filled
    rw [ClosesLast, behind_plain plain] at ending
    have later := calm.symbol found (ne_nil_of_lexed tail filled)
    exact (ih upper bottom ending later filled).symbol found (noRound_of_isPlain plain)

end TypstMarkup.Template
