import TypstMarkup.Markup.Rule
import TypstMarkup.Proofs.Text.Run

/-!
String literals written by the string rule. The rule replaces double quotes without looking at the
backslashes in front of them. So the literal is closed where it should be exactly if every run of
backslashes before a quote or at the end of the text is even, in each of the three modes.
-/
namespace TypstMarkup.Markup
open Text

/-- A condition on what stands before and after each double quote of a part of a text. -/
def EachQuote (holds : List Char → List Char → Prop) (pre part post : List Char) : Prop :=
  ∀ before after, part = before ++ '"' :: after → holds (pre ++ before) (after ++ post)

theorem eachQuote_nil (holds : List Char → List Char → Prop) (pre post : List Char) :
    EachQuote holds pre [] post := by
  intro before after split
  simp at split

theorem eachQuote_cons (holds : List Char → List Char → Prop) (pre post : List Char) (c : Char)
    (rest : List Char) :
    EachQuote holds pre (c :: rest) post ↔
      (c = '"' → holds pre (rest ++ post)) ∧ EachQuote holds (pre ++ [c]) rest post := by
  constructor
  · intro all
    refine ⟨fun same => ?_, fun before after split => ?_⟩
    · simpa using all [] rest (by simp [same])
    · simpa using all (c :: before) after (by simp [split])
  · rintro ⟨first, later⟩ before after split
    cases before with
    | nil =>
      obtain ⟨same, rfl⟩ := List.cons.inj split
      simpa using first same
    | cons d before =>
      obtain ⟨rfl, tail⟩ := List.cons.inj split
      simpa using later before after tail

theorem eachQuote_append (holds : List Char → List Char → Prop) (pre left right post : List Char) :
    EachQuote holds pre (left ++ right) post ↔
      EachQuote holds pre left (right ++ post) ∧ EachQuote holds (pre ++ left) right post := by
  induction left generalizing pre with
  | nil => simp [eachQuote_nil]
  | cons c left ih =>
    simp only [List.cons_append, eachQuote_cons, ih, List.append_assoc, List.nil_append]
    exact and_assoc.symm

/-- A replacement of double quotes that ends in one after `count` backslashes. -/
def escapedQuote (count : Nat) : List Char := List.replicate count '\\' ++ ['"']

theorem eachQuote_replicate (holds : List Char → List Char → Prop) (pre post : List Char)
    (count : Nat) : EachQuote holds pre (List.replicate count '\\') post := by
  intro before after split
  have member : '"' ∈ List.replicate count '\\' := by simp [split]
  simp at member

theorem replaceQuotes_append_singleton (replacement text : List Char) (c : Char) :
    replaceQuotes replacement (text ++ [c]) =
      replaceQuotes replacement text ++ if c = '"' then replacement else [c] := by
  simp [replaceQuotes]

/-- The quotes written for a text are those of the text, each after backslashes of its own. -/
theorem eachQuote_replaceQuotes (holds : List Char → List Char → Prop) (count : Nat)
    (pre seen text post : List Char) :
    EachQuote holds (pre ++ replaceQuotes (escapedQuote count) seen)
        (replaceQuotes (escapedQuote count) text) post ↔
      EachQuote (fun before after =>
        holds (pre ++ replaceQuotes (escapedQuote count) before ++ List.replicate count '\\')
          (replaceQuotes (escapedQuote count) after ++ post)) seen text [] := by
  induction text generalizing seen with
  | nil => simp [replaceQuotes, eachQuote_nil]
  | cons c rest ih =>
    have next := ih (seen ++ [c])
    rw [replaceQuotes_append_singleton] at next
    by_cases quote : c = '"'
    · subst quote
      rw [if_pos rfl, ← List.append_assoc] at next
      have first : replaceQuotes (escapedQuote count) ('"' :: rest) =
          List.replicate count '\\' ++ ['"'] ++ replaceQuotes (escapedQuote count) rest := rfl
      rw [first, eachQuote_append, eachQuote_append, eachQuote_cons, eachQuote_cons, ← next]
      simp [eachQuote_replicate, eachQuote_nil, escapedQuote]
    · rw [if_neg quote, ← List.append_assoc] at next
      have first : replaceQuotes (escapedQuote count) (c :: rest) =
          c :: replaceQuotes (escapedQuote count) rest := by simp [replaceQuotes, quote]
      rw [first, eachQuote_cons, next, eachQuote_cons]
      simp [quote]

/-- Replacing quotes keeps the run that a text ends in. -/
theorem trailingRun_replaceQuotes (count : Nat) (text : List Char) :
    trailingRun (replaceQuotes (escapedQuote count) text) = trailingRun text := by
  induction text using List.reverseRecOn with
  | nil => rfl
  | append_singleton text c ih =>
    rw [replaceQuotes_append_singleton]
    by_cases quote : c = '"'
    · subst quote
      rw [if_pos rfl, escapedQuote, ← List.append_assoc,
        trailingRun_append_other _ (by decide), trailingRun_append_other _ (by decide)]
    · rw [if_neg quote]
      by_cases slash : c = '\\'
      · subst slash
        rw [trailingRun_append_backslash, trailingRun_append_backslash, ih]
      · rw [trailingRun_append_other _ slash, trailingRun_append_other _ slash]

/-- One closed literal: it begins with a double quote, and of all its double quotes exactly the
first and the last stand after an even run of backslashes. -/
def ClosedLiteral (out : List Char) : Prop :=
  (∃ body, out = '"' :: body ++ ['"']) ∧
    ∀ before after, out = before ++ '"' :: after →
      (trailingRun before % 2 = 0 ↔ before = [] ∨ after = [])

/-- Every run of backslashes before a double quote or at the end is even. -/
def EvenRuns (text : List Char) : Prop :=
  (∀ before after, text = before ++ '"' :: after → trailingRun before % 2 = 0) ∧
    trailingRun text % 2 = 0

/-- The condition under which a quote keeps a literal whole. -/
def Delimits (before after : List Char) : Prop :=
  trailingRun before % 2 = 0 ↔ before = [] ∨ after = []

theorem closedLiteral_iff_eachQuote (out : List Char) :
    ClosedLiteral out ↔ (∃ body, out = '"' :: body ++ ['"']) ∧ EachQuote Delimits [] out [] := by
  simp [ClosedLiteral, EachQuote, Delimits]

theorem trailingRun_behind_quote (count : Nat) (left text : List Char) :
    trailingRun (left ++ ['"'] ++ replaceQuotes (escapedQuote count) text) = trailingRun text := by
  rw [List.append_assoc, List.singleton_append, trailingRun_append_cons _ (by decide),
    trailingRun_replaceQuotes]

/-- Behind an opening quote and before more text, only the runs of the text itself matter. -/
theorem eachQuote_inside_iff (count : Nat) (odd : count % 2 = 1) (left text post : List Char)
    (followed : post ≠ []) :
    EachQuote Delimits (left ++ ['"']) (replaceQuotes (escapedQuote count) text) post ↔
      ∀ before after, text = before ++ '"' :: after → trailingRun before % 2 = 0 := by
  have moved := eachQuote_replaceQuotes Delimits count (left ++ ['"']) [] text post
  rw [show replaceQuotes (escapedQuote count) [] = [] from rfl, List.append_nil] at moved
  have pointwise (before after : List Char) :
      Delimits (left ++ ['"'] ++ replaceQuotes (escapedQuote count) before ++
          List.replicate count '\\') (replaceQuotes (escapedQuote count) after ++ post) ↔
        trailingRun before % 2 = 0 := by
    rw [Delimits, trailingRun_append_replicate, trailingRun_behind_quote]
    simp only [List.append_eq_nil_iff, followed, List.cons_ne_self, and_false, false_and, or_self,
      iff_false]
    omega
  rw [moved]
  simp only [EachQuote, List.append_nil, List.nil_append, pointwise]

theorem closedLiteral_plain_iff (text : List Char) :
    ClosedLiteral ('"' :: (replaceQuotes (escapedQuote 1) text ++ ['"'])) ↔ EvenRuns text := by
  have inside := eachQuote_inside_iff 1 rfl [] text ['"'] (by simp)
  have last : trailingRun ('"' :: replaceQuotes (escapedQuote 1) text) = trailingRun text :=
    trailingRun_behind_quote 1 [] text
  rw [closedLiteral_iff_eachQuote, and_iff_right ⟨_, rfl⟩, eachQuote_cons, eachQuote_append,
    List.append_nil, List.append_nil, inside, EvenRuns]
  simp [eachQuote_cons, eachQuote_nil, Delimits, last]

theorem eachQuote_nested_close_iff (opened : List Char) :
    EachQuote Delimits opened ['\\', '"', '"'] [] ↔ trailingRun opened % 2 = 0 := by
  have run := trailingRun_append_backslash opened
  have final := trailingRun_append_other (opened ++ ['\\']) (c := '"') (by decide)
  simp only [eachQuote_cons, eachQuote_nil, Delimits, run, final]
  simp
  omega

/-- With one more level of quoting, the escaped quotes next to the delimiters stay escaped. -/
theorem closedLiteral_nested_iff (text : List Char) :
    ClosedLiteral (['"', '\\', '"'] ++ (replaceQuotes (escapedQuote 3) text ++ ['\\', '"', '"'])) ↔
      EvenRuns text := by
  have inside := eachQuote_inside_iff 3 rfl ['"', '\\'] text ['\\', '"', '"'] (by simp)
  have last := trailingRun_behind_quote 3 ['"', '\\'] text
  have opening (rest : List Char) :
      EachQuote Delimits [] ['"', '\\', '"'] (rest ++ ['\\', '"', '"']) := by
    simp [eachQuote_cons, eachQuote_nil, Delimits, trailingRun]
  have ends : ∃ body,
      ['"', '\\', '"'] ++ (replaceQuotes (escapedQuote 3) text ++ ['\\', '"', '"']) =
        '"' :: body ++ ['"'] :=
    ⟨'\\' :: '"' :: (replaceQuotes (escapedQuote 3) text ++ ['\\', '"']), by simp⟩
  rw [closedLiteral_iff_eachQuote, and_iff_right ends, eachQuote_append, eachQuote_append,
    List.append_nil, List.append_nil, eachQuote_nested_close_iff, and_iff_right (opening _)]
  exact and_congr inside (by rw [← last]; rfl)

/-- What is written for a text: it depends on the mode only through the level of quoting. -/
theorem quote_eq (text : List Char) {c : Context} {mode : Mode} (moded : c.mode = .ok mode) :
    quote (.ok text) c = .text (
      if mode = .markup then '"' :: (replaceQuotes (escapedQuote 1) text ++ ['"'])
      else ['"', '\\', '"'] ++ (replaceQuotes (escapedQuote 3) text ++ ['\\', '"', '"'])) := by
  rw [quote, moded]
  cases mode <;> rfl

/-- A string is written as one closed literal exactly if the runs of its text are even, whatever
the mode is. -/
theorem string_literal_closed_iff (text : String) (c : Context) (mode : Mode)
    (moded : c.mode = .ok mode) :
    ∃ out, writeString (.str text) c = .text out ∧ quote (.ok text.toList) c = .text out ∧
      (ClosedLiteral out ↔ EvenRuns text.toList) := by
  have read : textOf (.str text) = .ok text.toList := rfl
  rw [writeString, read, quote_eq text.toList moded]
  refine ⟨_, rfl, rfl, ?_⟩
  split
  · exact closedLiteral_plain_iff text.toList
  · exact closedLiteral_nested_iff text.toList

theorem string_literal_closed_iff_in_markup :
    Context.default.mode = .ok .markup ∧
      ∃ out, writeString (.str "a\\\\\"b") .default = .text out ∧
        quote (.ok "a\\\\\"b".toList) .default = .text out ∧
        (ClosedLiteral out ↔ EvenRuns "a\\\\\"b".toList) :=
  ⟨rfl, string_literal_closed_iff "a\\\\\"b" .default .markup rfl⟩

/-- A text that is one backslash escapes the quote that should close its literal. -/
theorem backslash_leaves_literal_open :
    ∃ out, writeString (.str "\\") .default = .text out ∧ ¬ ClosedLiteral out := by
  refine ⟨['"', '\\', '"'], rfl, ?_⟩
  intro closed
  have last := (closed.2 ['"', '\\'] [] rfl).2 (Or.inr rfl)
  exact absurd last (by decide)

end TypstMarkup.Markup
