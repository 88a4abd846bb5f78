import TypstMarkup.Proofs.Markup.Quoted

/-!
Quotes in regular expressions. Escaping keeps the parity of the run of backslashes that ends just
before the next character, so it writes a backslash exactly before the quotes that have none of
their own. The literal of an expression then ends where it should, unless the expression itself ends
in an odd run.
-/
namespace TypstMarkup.Markup
open Text

/-- A quote counts as escaped by what stands before it. -/
def Escaped (before _after : List Char) : Prop := trailingRun before % 2 = 1

/-- Every double quote of a text stands behind an odd run of backslashes. -/
def OnlyEscapedQuotes (text : List Char) : Prop :=
  ∀ before after, text = before ++ '"' :: after → trailingRun before % 2 = 1

theorem onlyEscapedQuotes_iff {text : List Char} :
    OnlyEscapedQuotes text ↔ EachQuote Escaped [] text [] := by
  simp [OnlyEscapedQuotes, EachQuote, Escaped]

/-- What escaping knows of the characters before: whether they end in an odd run. -/
def endsOdd (text : List Char) : Bool := trailingRun text % 2 == 1

theorem endsOdd_iff {before after : List Char} :
    endsOdd before = true ↔ Escaped before after := by
  rw [endsOdd, Escaped, beq_iff_eq]

theorem endsOdd_append_singleton (text : List Char) (c : Char) :
    endsOdd (text ++ [c]) = (c = '\\' && !endsOdd text) := by
  by_cases slash : c = '\\'
  · subst slash
    rw [Bool.eq_iff_iff]
    simp [endsOdd]
    omega
  · simp [endsOdd, trailingRun_append_other text slash, slash]

theorem eachQuote_escapeUnescapedFrom (pre text post : List Char) :
    EachQuote Escaped pre (escapeUnescapedFrom (endsOdd pre) text) post := by
  induction text generalizing pre with
  | nil => exact eachQuote_nil Escaped pre post
  | cons c rest ih =>
    have later := ih (pre ++ [c])
    rw [endsOdd_append_singleton] at later
    by_cases quote : c = '"'
    · subst quote
      cases odd : endsOdd pre with
      | true =>
        simp only [escapeUnescapedFrom, ↓reduceIte, eachQuote_cons]
        exact ⟨fun _ => endsOdd_iff.1 odd, later⟩
      | false =>
        have even : trailingRun pre % 2 = 0 := by simpa [endsOdd] using odd
        have escaped : Escaped (pre ++ ['\\']) (escapeUnescapedFrom false rest ++ post) := by
          rw [Escaped, trailingRun_append_backslash]
          omega
        have behind := ih (pre ++ ['\\'] ++ ['"'])
        rw [endsOdd_append_singleton] at behind
        simp only [escapeUnescapedFrom, ↓reduceIte, Bool.false_eq_true, eachQuote_cons]
        exact ⟨fun same => absurd same (by decide), fun _ => escaped, behind⟩
    · rw [escapeUnescapedFrom, if_neg quote, eachQuote_cons]
      exact ⟨fun same => absurd same quote, later⟩

theorem escapeUnescapedFrom_eq_self {pre text post : List Char}
    (escaped : EachQuote Escaped pre text post) :
    escapeUnescapedFrom (endsOdd pre) text = text := by
  induction text generalizing pre with
  | nil => rfl
  | cons c rest ih =>
    obtain ⟨first, tail⟩ := (eachQuote_cons Escaped pre post c rest).1 escaped
    have later := ih tail
    rw [endsOdd_append_singleton] at later
    by_cases quote : c = '"'
    · subst quote
      have odd : endsOdd pre = true := endsOdd_iff.2 (first rfl)
      simp only [escapeUnescapedFrom, odd, ↓reduceIte]
      exact congrArg _ later
    · simp only [escapeUnescapedFrom, quote, ↓reduceIte]
      exact congrArg _ later

/-- Backslashes are written before quotes only, so the run at the end stays as it is. -/
theorem trailingRun_append_escapeUnescapedFrom (pre text : List Char) (odd : Bool) :
    trailingRun (pre ++ escapeUnescapedFrom odd text) = trailingRun (pre ++ text) := by
  induction text generalizing pre odd with
  | nil => rfl
  | cons c rest ih =>
    by_cases quote : c = '"'
    · subst quote
      have behind := ih [] false
      rw [List.nil_append, List.nil_append] at behind
      rw [trailingRun_append_cons pre (by decide) rest, ← behind, escapeUnescapedFrom, if_pos rfl]
      split
      · exact trailingRun_append_cons pre (by decide) _
      · rw [List.append_cons]
        exact trailingRun_append_cons (pre ++ ['\\']) (by decide) _
    · rw [escapeUnescapedFrom, if_neg quote, List.append_cons, ih, ← List.append_cons]

theorem onlyEscapedQuotes_escapeUnescaped (text : List Char) :
    OnlyEscapedQuotes (escapeUnescaped text) :=
  onlyEscapedQuotes_iff.2 (eachQuote_escapeUnescapedFrom [] text [])

theorem escapeUnescaped_eq_self {text : List Char} (escaped : OnlyEscapedQuotes text) :
    escapeUnescaped text = text :=
  escapeUnescapedFrom_eq_self (onlyEscapedQuotes_iff.1 escaped)

/-! ### Literals of regular expressions -/

theorem trailingRun_patternSource (source : List Char) (f : PatternFlags) :
    trailingRun (patternSource source f) = trailingRun source := by
  unfold patternSource
  split
  · rfl
  · exact trailingRun_append_cons _ (by decide) source

/-- What is written before the first quote of a regular expression. -/
def patternOpening (mode : Mode) : List Char :=
  (if mode = .code then [] else ['#']) ++ "regex(".toList

/-- The text is the opening, a quote, a body, a quote and a bracket. The quote behind the opening is
the first one of all, every quote of the body is escaped, and the one behind the body is not. -/
def ClosesAtEnd (opening out : List Char) : Prop :=
  ∃ body, out = opening ++ '"' :: (body ++ ['"', ')']) ∧ '"' ∉ opening ∧
    (∀ before after, body = before ++ '"' :: after →
      trailingRun (opening ++ '"' :: before) % 2 = 1) ∧
    trailingRun (opening ++ '"' :: body) % 2 = 0

theorem writePattern_text (source : String) (f : PatternFlags) {c : Context} {mode : Mode}
    (moded : c.mode = .ok mode) :
    writePattern (.pattern (.text source f)) c =
      .text (patternOpening mode ++
        '"' :: (escapeUnescaped (patternSource source.toList f) ++ ['"', ')'])) := by
  simp only [writePattern, Value.core, codeSigil, moded]
  cases mode <;> rfl

theorem closesAtEnd_escapeUnescaped (mode : Mode) {source : List Char}
    (even : trailingRun source % 2 = 0) :
    ClosesAtEnd (patternOpening mode)
      (patternOpening mode ++ '"' :: (escapeUnescaped source ++ ['"', ')'])) := by
  have noQuote : '"' ∉ patternOpening mode := by cases mode <;> decide
  refine ⟨escapeUnescaped source, rfl, noQuote, ?_, ?_⟩
  · intro before after split
    rw [trailingRun_append_cons _ (by decide)]
    exact onlyEscapedQuotes_escapeUnescaped source before after split
  · have kept := trailingRun_append_escapeUnescapedFrom [] source false
    rw [List.nil_append, List.nil_append] at kept
    rw [trailingRun_append_cons _ (by decide), escapeUnescaped, kept, even]

/-- Escaping leaves only escaped quotes, changes nothing where there are no others, and so nothing
when done again. Hence the literal of a regular expression that does not end in an odd run of
backslashes is closed by the quote before the bracket at the end and by none before. -/
theorem pattern_literal_closes_at_end (text : List Char) :
    OnlyEscapedQuotes (escapeUnescaped text) ∧
      escapeUnescaped (escapeUnescaped text) = escapeUnescaped text ∧
      (OnlyEscapedQuotes text → escapeUnescaped text = text) ∧
      ∀ (source : String) (f : PatternFlags), trailingRun source.toList % 2 = 0 →
        ∀ (c : Context) (mode : Mode), c.mode = .ok mode →
          ∃ out, writePattern (.pattern (.text source f)) c = .text out ∧
            ClosesAtEnd (patternOpening mode) out := by
  have escaped := onlyEscapedQuotes_escapeUnescaped text
  refine ⟨escaped, escapeUnescaped_eq_self escaped, escapeUnescaped_eq_self, ?_⟩
  intro source f even c mode moded
  rw [← trailingRun_patternSource source.toList f] at even
  exact ⟨_, writePattern_text source f moded, closesAtEnd_escapeUnescaped mode even⟩

/-- A quote behind the options, one that is escaped already, and an even run at the end. -/
theorem pattern_literal_closes_at_end_options :
    OnlyEscapedQuotes "a\\\"".toList ∧ escapeUnescaped "a\\\"".toList = "a\\\"".toList ∧
      trailingRun "\"a\\\"b\\\\".toList % 2 = 0 ∧ Context.default.mode = .ok .markup ∧
      ∃ out, writePattern (.pattern (.text "\"a\\\"b\\\\" { ignoreCase := true })) .default =
          .text out ∧
        ClosesAtEnd (patternOpening .markup) out := by
  obtain ⟨-, -, unchanged, closes⟩ := pattern_literal_closes_at_end "a\\\"".toList
  have escaped : OnlyEscapedQuotes "a\\\"".toList := by
    refine onlyEscapedQuotes_iff.2 ?_
    simp [eachQuote_cons, eachQuote_nil, Escaped, trailingRun]
  have even : trailingRun "\"a\\\"b\\\\".toList % 2 = 0 := by decide
  exact ⟨escaped, unchanged escaped, even, rfl, closes _ _ even .default .markup rfl⟩

end TypstMarkup.Markup
