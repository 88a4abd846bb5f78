import TypstMarkup.Proofs.Markup.Quoted

/-!
Levels of quoting. In code and in math a string is quoted within a quoted string, and reading one
level back gives what is written in markup. This is about texts without backslashes: the string rule
escapes quotes only, so a backslash of the text itself would be read as an escape.
-/
namespace TypstMarkup.Markup
open Text

/-- Reads one level of escapes: a backslash and a character stand for that character. -/
def unescape : List Char → List Char
  | '\\' :: c :: rest => c :: unescape rest
  | c :: rest => c :: unescape rest
  | [] => []

theorem unescape_cons {c : Char} (plain : c ≠ '\\') (rest : List Char) :
    unescape (c :: rest) = c :: unescape rest := by
  rw [unescape]
  intro d after same
  exact absurd same plain

/-- Backslashes escape one another, and the last one escapes the quote. -/
theorem unescape_escapedQuote (level : Nat) (rest : List Char) :
    unescape (escapedQuote (2 * level + 1) ++ rest) = escapedQuote level ++ unescape rest := by
  induction level with
  | zero => rfl
  | succ level ih =>
    have twice : escapedQuote (2 * (level + 1) + 1) =
        '\\' :: '\\' :: escapedQuote (2 * level + 1) := rfl
    have once : escapedQuote (level + 1) = '\\' :: escapedQuote level := rfl
    rw [twice, once, List.cons_append, List.cons_append, unescape, ih, List.cons_append]

theorem unescape_replaceQuotes (level : Nat) {text : List Char} (plain : '\\' ∉ text)
    (rest : List Char) :
    unescape (replaceQuotes (escapedQuote (2 * level + 1)) text ++ rest) =
      replaceQuotes (escapedQuote level) text ++ unescape rest := by
  induction text with
  | nil => rfl
  | cons c text ih =>
    rw [List.mem_cons, not_or] at plain
    obtain ⟨noSlash, later⟩ := plain
    simp only [replaceQuotes, List.flatMap_cons, List.append_assoc] at ih ⊢
    by_cases quote : c = '"'
    · rw [if_pos quote, if_pos quote, unescape_escapedQuote, ih later]
    · rw [if_neg quote, if_neg quote, List.singleton_append, List.singleton_append,
        unescape_cons (Ne.symm noSlash), ih later]

theorem replaceQuotes_self (text : List Char) : replaceQuotes (escapedQuote 0) text = text := by
  induction text with
  | nil => rfl
  | cons c text ih =>
    simp only [replaceQuotes, List.flatMap_cons] at ih ⊢
    rw [ih]
    by_cases quote : c = '"'
    · rw [if_pos quote, quote]
      rfl
    · rw [if_neg quote]
      rfl

/-- Between its outer quotes, what is written in code or in math stands for what is written in
markup, and that stands for the text itself. -/
theorem quoting_levels_nest {text : String} (plain : '\\' ∉ text.toList) {c d : Context}
    {mode : Mode} (nested : c.mode = .ok mode) (inside : mode ≠ .markup)
    (markup : d.mode = .ok .markup) :
    ∃ twice once, writeString (.str text) c = .text twice ∧
      writeString (.str text) d = .text once ∧
      (∃ interior, twice = '"' :: interior ++ ['"'] ∧ unescape interior = once) ∧
      ∃ interior, once = '"' :: interior ++ ['"'] ∧ unescape interior = text.toList := by
  have read : textOf (.str text) = .ok text.toList := rfl
  rw [writeString, writeString, read, quote_eq text.toList nested, quote_eq text.toList markup,
    if_neg inside, if_pos rfl]
  refine ⟨_, _, rfl, rfl, ?_, ?_⟩
  · refine ⟨'\\' :: '"' :: (replaceQuotes (escapedQuote 3) text.toList ++ ['\\', '"']), ?_, ?_⟩
    · simp
    · rw [unescape, unescape_replaceQuotes 1 plain]
      rfl
  · have back := unescape_replaceQuotes 0 plain []
    rw [List.append_nil, replaceQuotes_self] at back
    exact ⟨_, rfl, back.trans (List.append_nil _)⟩

/-- Quotes at both ends and side by side. -/
theorem quoting_levels_nest_adjacent :
    '\\' ∉ "\"a\"\"b\"".toList ∧ (Context.default.withMode .code).mode = .ok .code ∧
      Context.default.mode = .ok .markup ∧
      ∃ twice once, writeString (.str "\"a\"\"b\"") (Context.default.withMode .code) =
          .text twice ∧
        writeString (.str "\"a\"\"b\"") .default = .text once ∧
        (∃ interior, twice = '"' :: interior ++ ['"'] ∧ unescape interior = once) ∧
        ∃ interior, once = '"' :: interior ++ ['"'] ∧
          unescape interior = "\"a\"\"b\"".toList := by
  have plain : '\\' ∉ "\"a\"\"b\"".toList := by decide
  exact ⟨plain, rfl, rfl, quoting_levels_nest plain rfl (by decide) rfl⟩

end TypstMarkup.Markup
