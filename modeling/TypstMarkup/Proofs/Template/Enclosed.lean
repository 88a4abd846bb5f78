import TypstMarkup.Template.Closing

/-!
Texts that a closing bracket can follow. The search for the bracket stops exactly behind such a
text, so what comes after the bracket has no influence on where it is found.
-/
namespace TypstMarkup.Template

/-- Texts after which the next closing bracket ends the search, where `depth` further brackets and
possibly a quoted text are open before. -/
inductive Enclosed : Nat → Within → List Char → Prop where
  | done : Enclosed 0 .code []
  | openTriple {depth : Nat} {c : Char} {rest : List Char} (quote : isQuote c = true)
      (tail : Enclosed depth (.triple c) rest) : Enclosed depth .code (c :: c :: c :: rest)
  | openSingle {depth : Nat} {c : Char} {rest : List Char} (quote : isQuote c = true)
      (lone : ¬ [c, c] <+: rest) (tail : Enclosed depth (.single c) rest) :
      Enclosed depth .code (c :: rest)
  | openBracket {depth : Nat} {rest : List Char} (tail : Enclosed (depth + 1) .code rest) :
      Enclosed depth .code ('(' :: rest)
  | closeBracket {depth : Nat} {rest : List Char} (tail : Enclosed depth .code rest) :
      Enclosed (depth + 1) .code (')' :: rest)
  | plain {depth : Nat} {c : Char} {rest : List Char} (noQuote : isQuote c = false)
      (noOpen : c ≠ '(') (noClose : c ≠ ')') (tail : Enclosed depth .code rest) :
      Enclosed depth .code (c :: rest)
  | escapedSingle {depth : Nat} {quote d : Char} {rest : List Char}
      (tail : Enclosed depth (.single quote) rest) :
      Enclosed depth (.single quote) ('\\' :: d :: rest)
  | closeSingle {depth : Nat} {quote : Char} {rest : List Char}
      (tail : Enclosed depth .code rest) : Enclosed depth (.single quote) (quote :: rest)
  | insideSingle {depth : Nat} {quote c : Char} {rest : List Char} (noSlash : c ≠ '\\')
      (noQuote : c ≠ quote) (tail : Enclosed depth (.single quote) rest) :
      Enclosed depth (.single quote) (c :: rest)
  | escapedTriple {depth : Nat} {quote d : Char} {rest : List Char}
      (tail : Enclosed depth (.triple quote) rest) :
      Enclosed depth (.triple quote) ('\\' :: d :: rest)
  | closeTriple {depth : Nat} {quote : Char} {rest : List Char}
      (tail : Enclosed depth .code rest) :
      Enclosed depth (.triple quote) (quote :: quote :: quote :: rest)
  | insideTriple {depth : Nat} {quote c : Char} {rest : List Char} (noSlash : c ≠ '\\')
      (goesOn : ¬ [quote, quote, quote] <+: c :: rest)
      (tail : Enclosed depth (.triple quote) rest) : Enclosed depth (.triple quote) (c :: rest)

/-- What a searched text does not start with, the text found in it does not start with either. -/
theorem not_prefix_of_closingFrom {depth : Nat} {within : Within}
    {start source contents rest : List Char} (before : List Char)
    (found : closingFrom depth within source = .ok (contents, rest))
    (absent : ¬ start <+: before ++ source) : ¬ start <+: before ++ contents := by
  intro starts
  rw [eq_append_of_closingFrom depth within source found, ← List.append_assoc] at absent
  exact absent (starts.trans (List.prefix_append _ _))

/-- What the search finds is enclosed. -/
theorem enclosed_of_closingFrom {depth : Nat} {within : Within} {source contents rest : List Char}
    (found : closingFrom depth within source = .ok (contents, rest)) :
    Enclosed depth within contents := by
  fun_induction closingFrom depth within source generalizing contents rest with
  | case1 => cases found
  | case2 => cases found
  | case3 depth c quote d e more same ih =>
    obtain ⟨inner, tail, rfl⟩ := prepend_eq_ok_iff.1 found
    obtain ⟨rfl, rfl⟩ := same
    exact .openTriple quote (ih tail)
  | case4 depth c quote d e more differ ih =>
    obtain ⟨inner, tail, rfl⟩ := prepend_eq_ok_iff.1 found
    refine .openSingle quote (not_prefix_of_closingFrom [] tail ?_) (ih tail)
    simpa [eq_comm] using differ
  | case5 depth c quote source short ih =>
    obtain ⟨inner, tail, rfl⟩ := prepend_eq_ok_iff.1 found
    refine .openSingle quote (not_prefix_of_closingFrom [] tail ?_) (ih tail)
    rintro ⟨more, rfl⟩
    exact short _ _ _ rfl
  | case6 depth source noQuote ih =>
    obtain ⟨inner, tail, rfl⟩ := prepend_eq_ok_iff.1 found
    exact .openBracket (ih tail)
  | case7 source noQuote noOpen =>
    cases found
    exact .done
  | case8 source depth noQuote noOpen ih =>
    obtain ⟨inner, tail, rfl⟩ := prepend_eq_ok_iff.1 found
    exact .closeBracket (ih tail)
  | case9 depth c source noQuote noOpen noClose ih =>
    obtain ⟨inner, tail, rfl⟩ := prepend_eq_ok_iff.1 found
    exact .plain (by simpa using noQuote) noOpen noClose (ih tail)
  | case10 => cases found
  | case11 depth quote d source ih =>
    obtain ⟨inner, tail, rfl⟩ := prepend_eq_ok_iff.1 found
    exact .escapedSingle (ih tail)
  | case12 depth quote source noSlash ih =>
    obtain ⟨inner, tail, rfl⟩ := prepend_eq_ok_iff.1 found
    exact .closeSingle (ih tail)
  | case13 depth quote c source noSlash noQuote ih =>
    obtain ⟨inner, tail, rfl⟩ := prepend_eq_ok_iff.1 found
    exact .insideSingle noSlash noQuote (ih tail)
  | case14 => cases found
  | case15 depth quote d source ih =>
    obtain ⟨inner, tail, rfl⟩ := prepend_eq_ok_iff.1 found
    exact .escapedTriple (ih tail)
  | case16 depth quote c noSlash d e source same ih =>
    obtain ⟨inner, tail, rfl⟩ := prepend_eq_ok_iff.1 found
    obtain ⟨rfl, rfl, rfl⟩ := same
    exact .closeTriple (ih tail)
  | case17 depth quote c noSlash d e source differ ih =>
    obtain ⟨inner, tail, rfl⟩ := prepend_eq_ok_iff.1 found
    refine .insideTriple noSlash (not_prefix_of_closingFrom [c] tail ?_) (ih tail)
    simpa [eq_comm] using differ
  | case18 depth quote c noSlash source short ih =>
    obtain ⟨inner, tail, rfl⟩ := prepend_eq_ok_iff.1 found
    refine .insideTriple noSlash (not_prefix_of_closingFrom [c] tail ?_) (ih tail)
    rintro ⟨more, same⟩
    exact short _ _ _ (List.cons.inj same).2.symm

/-- Quoted texts are opened by quotes only. -/
def Within.Quoted : Within → Prop
  | .code => True
  | .single quote | .triple quote => isQuote quote = true

theorem quote_ne {c d : Char} (quote : isQuote c = true) (other : isQuote d = false) : c ≠ d := by
  rintro rfl
  rw [quote] at other
  cases other

/-- Quotes do not reach into a text that begins with something else. -/
theorem quotes_prefix_of_append {c : Char} {quotes text behind : List Char}
    (only : ∀ d ∈ quotes, d = c) (free : ¬ [c] <+: behind) (starts : quotes <+: text ++ behind) :
    quotes <+: text := by
  induction quotes generalizing text with
  | nil => exact List.nil_prefix
  | cons d quotes ih =>
    obtain rfl : d = c := only d List.mem_cons_self
    cases text with
    | nil => exact absurd ((List.prefix_append [d] quotes).trans starts) free
    | cons e text =>
      rw [List.cons_append, List.cons_prefix_cons] at starts
      rw [List.cons_prefix_cons]
      exact ⟨starts.1, ih (fun e member => only e (List.mem_cons_of_mem d member)) starts.2⟩

theorem not_starts_quote {c d : Char} (quote : isQuote c = true) (other : isQuote d = false)
    (rest : List Char) : ¬ [c] <+: d :: rest := by
  intro starts
  exact quote_ne quote other (List.cons_prefix_cons.1 starts).1

/-- Quotes that a text does not start with do not come about through a bracket behind it. -/
theorem not_quotes_prefix_append {c : Char} (quote : isQuote c = true) {quotes text : List Char}
    (only : ∀ d ∈ quotes, d = c) (absent : ¬ quotes <+: text) (rest : List Char) :
    ¬ quotes <+: text ++ ')' :: rest := by
  intro starts
  exact absent (quotes_prefix_of_append only (not_starts_quote quote (by decide) rest) starts)

/-! ### One step of the search -/

theorem closingFrom_openTriple {c : Char} (quote : isQuote c = true) (depth : Nat)
    (rest : List Char) :
    closingFrom depth .code (c :: c :: c :: rest) =
      prepend [c, c, c] (closingFrom depth (.triple c) rest) := by
  rw [closingFrom.eq_def]
  simp [quote]

theorem closingFrom_openSingle {c : Char} {rest : List Char} (quote : isQuote c = true)
    (lone : ¬ [c, c] <+: rest) (depth : Nat) :
    closingFrom depth .code (c :: rest) = prepend [c] (closingFrom depth (.single c) rest) := by
  rw [closingFrom.eq_def]
  simp only [quote, ↓reduceIte]
  split
  · rw [if_neg (by simpa [eq_comm] using lone)]
  · rfl

theorem closingFrom_openBracket (depth : Nat) (rest : List Char) :
    closingFrom depth .code ('(' :: rest) =
      prepend ['('] (closingFrom (depth + 1) .code rest) := by
  rw [closingFrom.eq_def]
  simp [isQuote]

theorem closingFrom_closeBracket (depth : Nat) (rest : List Char) :
    closingFrom (depth + 1) .code (')' :: rest) = prepend [')'] (closingFrom depth .code rest) := by
  rw [closingFrom.eq_def]
  simp [isQuote]

theorem closingFrom_lastBracket (rest : List Char) :
    closingFrom 0 .code (')' :: rest) = .ok ([], rest) := by
  rw [closingFrom.eq_def]
  simp [isQuote]

theorem closingFrom_plain {c : Char} (noQuote : isQuote c = false) (noOpen : c ≠ '(')
    (noClose : c ≠ ')') (depth : Nat) (rest : List Char) :
    closingFrom depth .code (c :: rest) = prepend [c] (closingFrom depth .code rest) := by
  rw [closingFrom.eq_def]
  simp [noQuote, noOpen, noClose]

theorem closingFrom_escapedSingle (depth : Nat) (quote d : Char) (rest : List Char) :
    closingFrom depth (.single quote) ('\\' :: d :: rest) =
      prepend ['\\', d] (closingFrom depth (.single quote) rest) := by
  rw [closingFrom.eq_def]
  simp

theorem closingFrom_closeSingle {quote : Char} (noSlash : quote ≠ '\\') (depth : Nat)
    (rest : List Char) :
    closingFrom depth (.single quote) (quote :: rest) =
      prepend [quote] (closingFrom depth .code rest) := by
  rw [closingFrom.eq_def]
  simp [noSlash]

theorem closingFrom_insideSingle {quote c : Char} (noSlash : c ≠ '\\') (noQuote : c ≠ quote)
    (depth : Nat) (rest : List Char) :
    closingFrom depth (.single quote) (c :: rest) =
      prepend [c] (closingFrom depth (.single quote) rest) := by
  rw [closingFrom.eq_def]
  simp [noSlash, noQuote]

theorem closingFrom_escapedTriple (depth : Nat) (quote d : Char) (rest : List Char) :
    closingFrom depth (.triple quote) ('\\' :: d :: rest) =
      prepend ['\\', d] (closingFrom depth (.triple quote) rest) := by
  rw [closingFrom.eq_def]
  simp

theorem closingFrom_closeTriple {quote : Char} (noSlash : quote ≠ '\\') (depth : Nat)
    (rest : List Char) :
    closingFrom depth (.triple quote) (quote :: quote :: quote :: rest) =
      prepend [quote, quote, quote] (closingFrom depth .code rest) := by
  rw [closingFrom.eq_def]
  simp [noSlash]

theorem closingFrom_insideTriple {quote c : Char} {rest : List Char} (noSlash : c ≠ '\\')
    (goesOn : ¬ [quote, quote, quote] <+: c :: rest) (depth : Nat) :
    closingFrom depth (.triple quote) (c :: rest) =
      prepend [c] (closingFrom depth (.triple quote) rest) := by
  rw [closingFrom.eq_def]
  simp only [noSlash, ↓reduceIte]
  split
  · rw [if_neg (by simpa [eq_comm] using goesOn)]
  · rfl

theorem closingFrom_of_enclosed {depth : Nat} {within : Within} {contents : List Char}
    (enclosed : Enclosed depth within contents) (quoted : within.Quoted) (rest : List Char) :
    closingFrom depth within (contents ++ ')' :: rest) = .ok (contents, rest) := by
  induction enclosed with
  | done => exact closingFrom_lastBracket rest
  | openTriple quote tail ih =>
    rw [List.cons_append, List.cons_append, List.cons_append, closingFrom_openTriple quote,
      ih quote]
    rfl
  | openSingle quote lone tail ih =>
    have alone := not_quotes_prefix_append quote (by simp) lone rest
    rw [List.cons_append, closingFrom_openSingle quote alone, ih quote]
    rfl
  | openBracket tail ih =>
    rw [List.cons_append, closingFrom_openBracket, ih trivial]
    rfl
  | closeBracket tail ih =>
    rw [List.cons_append, closingFrom_closeBracket, ih trivial]
    rfl
  | plain noQuote noOpen noClose tail ih =>
    rw [List.cons_append, closingFrom_plain noQuote noOpen noClose, ih trivial]
    rfl
  | escapedSingle tail ih =>
    rw [List.cons_append, List.cons_append, closingFrom_escapedSingle, ih quoted]
    rfl
  | closeSingle tail ih =>
    rw [List.cons_append, closingFrom_closeSingle (quote_ne quoted (by decide)), ih trivial]
    rfl
  | insideSingle noSlash noQuote tail ih =>
    rw [List.cons_append, closingFrom_insideSingle noSlash noQuote, ih quoted]
    rfl
  | escapedTriple tail ih =>
    rw [List.cons_append, List.cons_append, closingFrom_escapedTriple, ih quoted]
    rfl
  | closeTriple tail ih =>
    rw [List.cons_append, List.cons_append, List.cons_append,
      closingFrom_closeTriple (quote_ne quoted (by decide)), ih trivial]
    rfl
  | insideTriple noSlash goesOn tail ih =>
    have unclosed := not_quotes_prefix_append quoted (by simp) goesOn rest
    rw [List.cons_append] at unclosed ⊢
    rw [closingFrom_insideTriple noSlash unclosed, ih quoted]
    rfl

/-- The closing bracket is found exactly behind the enclosed text that the source begins with. -/
theorem closing_eq_ok_iff {source contents rest : List Char} :
    closing source = .ok (contents, rest) ↔
      source = contents ++ ')' :: rest ∧ Enclosed 0 .code contents := by
  constructor
  · intro found
    exact ⟨eq_append_of_closingFrom 0 .code source found, enclosed_of_closingFrom found⟩
  · rintro ⟨rfl, enclosed⟩
    exact closingFrom_of_enclosed enclosed trivial rest

end TypstMarkup.Template
