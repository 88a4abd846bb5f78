import Mathlib.Data.List.TakeDrop
import TypstMarkup.Toml.Line
import TypstMarkup.Proofs.Toml.Number

/-!
Written lines with their layout. A reader that keeps the layout of a document finds in every written
line what was written: the key with the blank behind it, the text of the value, and the line end.
-/
namespace TypstMarkup.Toml

/-! ### Strings -/

/-- The code of a control stands for it. -/
theorem coded?_hexDigits {c : Char} (control : isControl c = true) :
    coded? (Text.hexDigits 4 c.toNat) = some c := by
  have codes : ∀ n < 128, coded? (Text.hexDigits 4 n) = some (Char.ofNat n) := by decide +kernel
  have small : c.toNat < 128 := by
    simp only [isControl, Bool.or_eq_true, decide_eq_true_eq, beq_iff_eq] at control
    omega
  rw [codes c.toNat small, Char.ofNat_toNat]

/-- The writing of a character is read as that character. -/
theorem stringBody?_escaped {c : Char} {written : List Char} (escaped : Escaped c written)
    (rest : List Char) (budget : Nat) :
    stringBody? '"' false (budget + 1) (written ++ rest) =
      (stringBody? '"' false budget rest).map fun r => (c :: r.1, r.2) := by
  cases escaped with
  | itself noQuote noSlash noControl =>
    simp [stringBody?, noQuote, noSlash, noControl]
  | @short letter known =>
    have control : isControl '\\' = false := by decide
    simp only [List.mem_cons, Prod.mk.injEq, List.not_mem_nil, or_false] at known
    rcases known with ⟨rfl, rfl⟩ | ⟨rfl, rfl⟩ | ⟨rfl, rfl⟩ | ⟨rfl, rfl⟩ | ⟨rfl, rfl⟩ | ⟨rfl, rfl⟩ |
      ⟨rfl, rfl⟩ <;> simp [stringBody?, escape?, control]
  | code control =>
    have slash : isControl '\\' = false := by decide
    have length : (Text.hexDigits 4 c.toNat).length = 4 := Text.length_hexDigits 4 c.toNat
    have taken : (Text.hexDigits 4 c.toNat ++ rest).take 4 = Text.hexDigits 4 c.toNat :=
      List.take_left' length
    have dropped : (Text.hexDigits 4 c.toNat ++ rest).drop 4 = rest :=
      List.drop_left' length
    have enough : ¬(Text.hexDigits 4 c.toNat ++ rest).length < 4 := by
      rw [List.length_append, length]
      omega
    have read : escape? false ('u' :: (Text.hexDigits 4 c.toNat ++ rest)) = some ([c], rest) := by
      rw [escape?, if_neg (by decide)]
      simp only [if_neg enough, taken, dropped, coded?_hexDigits control, Option.map_some]
    simp [stringBody?, slash, read]

/-- The body of a basic string ends at its closing quote, and says what was written. -/
theorem stringBody?_basic (text rest : List Char) {budget : Nat} (enough : text.length < budget) :
    stringBody? '"' false budget (text.flatMap basicChar ++ '"' :: rest) = some (text, rest) := by
  induction text generalizing budget with
  | nil =>
    obtain ⟨budget, rfl⟩ := Nat.exists_eq_succ_of_ne_zero (Nat.ne_zero_of_lt enough)
    have quote : isControl '"' = false := by decide
    simp [stringBody?, quote]
  | cons c text ih =>
    obtain ⟨budget, rfl⟩ := Nat.exists_eq_succ_of_ne_zero (Nat.ne_zero_of_lt enough)
    rw [List.flatMap_cons, List.append_assoc, stringBody?_escaped (escaped_basicChar c),
      ih (Nat.lt_of_succ_lt_succ enough)]
    rfl

theorem exists_cons_escaped {c : Char} {written : List Char} (escaped : Escaped c written) :
    ∃ first more, written = first :: more ∧ first ≠ '"' := by
  cases escaped with
  | itself noQuote _ _ => exact ⟨c, [], rfl, noQuote⟩
  | short _ => exact ⟨_, _, rfl, by decide⟩
  | code _ => exact ⟨_, _, rfl, by decide⟩

theorem length_le_flatMap_basicChar (text : List Char) :
    text.length ≤ (text.flatMap basicChar).length := by
  induction text with
  | nil => exact Nat.le_refl _
  | cons c text ih =>
    obtain ⟨first, more, same, -⟩ := exists_cons_escaped (escaped_basicChar c)
    rw [List.flatMap_cons, List.length_append, same, List.length_cons, List.length_cons]
    omega

/-- A basic string is read as what it was written for, up to its closing quote. -/
theorem string?_basic (text : List Char) {rest : List Char} (noQuote : rest.head? ≠ some '"') :
    string? (basicString text ++ rest) = some (text, false, rest) := by
  rw [basicString, List.cons_append, List.cons_append, List.append_assoc, List.singleton_append]
  cases text with
  | nil =>
    cases rest with
    | nil => simp [string?]
    | cons c rest =>
      have noQuote : c ≠ '"' := fun same => noQuote (congrArg some same)
      simp [string?, noQuote]
  | cons first text =>
    have whole : stringBody? '"' false
        (((first :: text).flatMap basicChar ++ '"' :: rest).length + 1)
        ((first :: text).flatMap basicChar ++ '"' :: rest) = some (first :: text, rest) :=
      stringBody?_basic (first :: text) rest (by
        have shorter := length_le_flatMap_basicChar (first :: text)
        rw [List.length_append]
        omega)
    obtain ⟨d, more, same, other⟩ := exists_cons_escaped (escaped_basicChar first)
    rw [List.flatMap_cons, same, List.cons_append, List.cons_append] at whole ⊢
    rw [List.length_cons] at whole
    unfold string?
    dsimp only
    rw [if_pos (by simpa using other)]
    rw [whole]
    rfl

theorem string?_basicString (text : List Char) {c : Char} (noQuote : c ≠ '"') (rest : List Char) :
    string? (basicString text ++ c :: rest) = some (text, false, c :: rest) :=
  string?_basic text fun same => noQuote (Option.some.inj same)

/-! ### Keys -/

theorem span_cons {p : Char → Bool} (front : List Char) (all : ∀ c ∈ front, p c = true) {c : Char}
    (stop : p c = false) (rest : List Char) : (front ++ c :: rest).span p = (front, c :: rest) := by
  have none : (c :: rest).takeWhile p = [] := by simp [stop]
  have same : (c :: rest).dropWhile p = c :: rest := by simp [stop]
  rw [List.span_eq_takeWhile_dropWhile, List.takeWhile_append_of_pos all,
    List.dropWhile_append_of_pos all, none, same, List.append_nil]

theorem span_stop {p : Char → Bool} {c : Char} (stop : p c = false) (rest : List Char) :
    (c :: rest).span p = ([], c :: rest) :=
  span_cons [] (List.forall_mem_nil _) stop rest

theorem isSpacing_of_isBareChar {c : Char} (bare : isBareChar c = true) : isSpacing c = false := by
  rw [isSpacing, beq_eq_false_iff_ne.2 (ne_of_isBareChar bare rfl),
    beq_eq_false_iff_ne.2 (ne_of_isBareChar bare rfl)]
  rfl

/-- A bare key is read with the blanks behind it. -/
theorem key?_bare {key : List Char} (filled : key ≠ []) (bare : ∀ c ∈ key, isBareChar c = true)
    (count : Nat) {c : Char} (noBare : isBareChar c = false) (noSpacing : isSpacing c = false)
    (rest : List Char) :
    key? (key ++ List.replicate count ' ' ++ c :: rest) =
      .ok (⟨String.ofList key, key ++ List.replicate count ' '⟩, c :: rest) := by
  obtain ⟨first, more, shape⟩ := List.exists_cons_of_ne_nil filled
  have bareFirst : isBareChar first = true := bare first (by rw [shape]; exact List.mem_cons_self)
  have before : (key ++ List.replicate count ' ' ++ c :: rest).span isSpacing =
      ([], key ++ List.replicate count ' ' ++ c :: rest) := by
    rw [shape]
    exact span_stop (isSpacing_of_isBareChar bareFirst) _
  have word : (key ++ List.replicate count ' ' ++ c :: rest).span
      (fun c => isBareChar c || isSpacing c) = (key ++ List.replicate count ' ', c :: rest) := by
    refine span_cons _ (fun d member => ?_) (by rw [noBare, noSpacing]; rfl) rest
    rcases List.mem_append.1 member with inside | blank
    · rw [bare d inside]
      rfl
    · rw [List.eq_of_mem_replicate blank]
      decide
  have noSpace : key.contains ' ' = false := by
    rw [← Bool.not_eq_true, List.contains_iff_mem]
    intro member
    cases bare ' ' member
  unfold key?
  rw [before]
  dsimp only
  split
  · rename_i same
    rw [shape] at same
    exact absurd (List.cons.inj same).1 (ne_of_isBareChar bareFirst rfl)
  · rename_i same
    rw [shape] at same
    exact absurd (List.cons.inj same).1 (ne_of_isBareChar bareFirst rfl)
  · rw [word]
    dsimp only
    rw [strip_bare bare count, noSpace, List.isEmpty_eq_false_iff.2 filled]
    rfl

/-- A written key is read with the blank behind it. -/
theorem key?_writtenKey (key : List Char) (rest : List Char) :
    key? (writtenKey key ++ ' ' :: '=' :: rest) =
      .ok (⟨String.ofList key, writtenKey key ++ [' ']⟩, '=' :: rest) := by
  rcases writtenKey_cases key with ⟨same, filled, bare⟩ | same
  · have read := key?_bare filled bare 1 (c := '=') rfl rfl rest
    rw [same]
    simpa using read
  · have text := string?_basicString key (c := ' ') (by decide) ('=' :: rest)
    have before : (basicString key ++ ' ' :: '=' :: rest).span isSpacing =
        ([], basicString key ++ ' ' :: '=' :: rest) :=
      span_stop (by decide) _
    have behind : (' ' :: '=' :: rest).span isSpacing = ([' '], '=' :: rest) :=
      span_cons [' '] (List.all_eq_true.1 rfl) (by decide) rest
    rw [same]
    have taken : (basicString key ++ ' ' :: '=' :: rest).take
        ((basicString key ++ ' ' :: '=' :: rest).length - ('=' :: rest).length - [' '].length) =
          basicString key := by
      refine List.take_left' ?_
      simp only [List.length_append, List.length_cons, List.length_nil]
      omega
    unfold key?
    rw [before]
    dsimp only
    rw [text]
    simp only [behind, taken]
    rfl

theorem keys?_single {source rest : List Char} {key : Key} (read : key? source = .ok (key, rest))
    (noPoint : rest.head? ≠ some '.') (budget : Nat) :
    keys? (budget + 1) source = .ok ([key], rest) := by
  rw [keys?, read]
  simp only [bind, Except.bind]
  split
  · exact absurd rfl noPoint
  · rfl

theorem separator?_equals {c : Char} (noEquals : c ≠ '=') (noSpacing : isSpacing c = false)
    (rest : List Char) : separator? ('=' :: ' ' :: c :: rest) = .ok (['=', ' '], c :: rest) := by
  have taken : ('=' :: ' ' :: c :: rest).span (fun c => c == '=' || isSpacing c) =
      (['=', ' '], c :: rest) := by
    refine span_cons ['=', ' '] (List.all_eq_true.1 rfl) ?_ rest
    rw [noSpacing, beq_eq_false_iff_ne.2 noEquals]
    rfl
  rw [separator?, taken]
  rfl

theorem lineEnd?_lineFeed (rest : List Char) : lineEnd? ('\n' :: rest) = .ok ({}, rest) := by
  have none : ('\n' :: rest).span (fun c => isSpacing c || c == '\r') = ([], '\n' :: rest) :=
    span_stop (by decide) rest
  rw [lineEnd?, none]
  rfl

/-! ### Values -/

def sortOf : Node → ValueSort
  | .boolean b => .truth b
  | _ => .plain

section

variable {budget : Nat} {rest : List Char}

theorem element?_text (s : List Char) {c : Char} (noQuote : c ≠ '"') :
    element? (budget + 1) (basicString s ++ c :: rest) =
      .ok (.value .plain (basicString s) {}, c :: rest) := by
  have read := string?_basicString s noQuote rest
  have taken : (basicString s ++ c :: rest).take
      ((basicString s ++ c :: rest).length - (c :: rest).length) = basicString s := by
    rw [List.length_append, Nat.add_sub_cancel]
    exact List.take_left' rfl
  rw [basicString, List.cons_append, List.cons_append] at read taken ⊢
  rw [element?, if_pos (by decide), read]
  dsimp only
  rw [taken]

theorem element?_boolean (b : Bool) :
    element? (budget + 1) (writtenNode (.boolean b) ++ rest) =
      .ok (.value (.truth b) (writtenNode (.boolean b)) {}, rest) := by
  cases b with
  | false =>
    have text : writtenNode (.boolean false) ++ rest =
        'f' :: 'a' :: 'l' :: 's' :: 'e' :: rest := rfl
    rw [text, element?, if_neg (by decide), if_neg (by decide), if_neg (by decide),
      if_pos (by decide)]
    simp [List.isPrefixOf]
    rfl
  | true =>
    have text : writtenNode (.boolean true) ++ rest = 't' :: 'r' :: 'u' :: 'e' :: rest := rfl
    rw [text, element?, if_neg (by decide), if_neg (by decide), if_neg (by decide),
      if_pos (by decide)]
    simp [List.isPrefixOf]
    rfl

theorem word?_number {word : List Char} (letters : ∀ c ∈ word, isWordChar c = true)
    (number : isNumber word = true) :
    word? (word ++ '\n' :: rest) = .ok (word, [], '\n' :: rest) := by
  have cut : (word ++ '\n' :: rest).span (fun c => !endsWord c) = (word, '\n' :: rest) := by
    refine span_cons _ (fun c member => ?_) (by decide) rest
    have other {d : Char} (special : isWordChar d = false) : c ≠ d :=
      ne_of_isWordChar (letters c member) special
    simp [endsWord, isSpacing, other (d := ' ') rfl, other (d := '\t') rfl, other (d := '\n') rfl,
      other (d := '\r') rfl, other (d := '#') rfl, other (d := ',') rfl, other (d := ']') rfl,
      other (d := '}') rfl]
  have none : ('\n' :: rest).span (fun c => c == ' ' || !endsWord c) = ([], '\n' :: rest) :=
    span_stop (by decide) rest
  rw [word?, cut]
  dsimp only
  split
  · rw [none]
    rfl
  · rw [number, Bool.or_true]
    rfl

theorem element?_number {word : List Char} (letters : ∀ c ∈ word, isWordChar c = true)
    (starts : StartsNumber word) (number : isNumber word = true) :
    element? (budget + 1) (word ++ '\n' :: rest) = .ok (.value .plain word {}, '\n' :: rest) := by
  have read : word? (word ++ '\n' :: rest) = .ok (word, [], '\n' :: rest) :=
    word?_number letters number
  rcases starts with ⟨c, more, rfl, first⟩ | rfl | rfl
  · have other {d : Char} (letter : d.isDigit = false) (noDash : d ≠ '-') : c ≠ d := by
      rintro rfl
      rcases first with digit | dash
      · rw [digit] at letter
        cases letter
      · exact noDash dash
    have opens : (c.isDigit || c == '+' || c == '-' ||
        ['i', 'n', 'f'].isPrefixOf (c :: (more ++ '\n' :: rest)) ||
        ['n', 'a', 'n'].isPrefixOf (c :: (more ++ '\n' :: rest))) = true := by
      rcases first with digit | rfl
      · rw [digit]
        rfl
      · rfl
    rw [List.cons_append] at read ⊢
    rw [element?,
      if_neg (by simp [other (d := '"') rfl (by decide), other (d := '\'') rfl (by decide)]),
      if_neg (by simp [other (d := '[') rfl (by decide)]),
      if_neg (by simp [other (d := '{') rfl (by decide)]),
      if_neg (by simp [other (d := 't') rfl (by decide), other (d := 'f') rfl (by decide)]),
      if_pos opens, read]
    rfl
  · rw [List.cons_append] at read ⊢
    rw [element?, if_neg (by decide), if_neg (by decide), if_neg (by decide), if_neg (by decide),
      if_pos (by simp [List.isPrefixOf]), read]
    rfl
  · rw [List.cons_append] at read ⊢
    rw [element?, if_neg (by decide), if_neg (by decide), if_neg (by decide), if_neg (by decide),
      if_pos (by simp [List.isPrefixOf]), read]
    rfl

theorem array?_closing : array? (budget + 1) true (']' :: rest) = .ok ([']'], rest) := by
  have cut : (']' :: rest).span (fun c => isSpacing c || c == '\n' || c == '\r') =
      ([], ']' :: rest) := span_stop (by decide) rest
  rw [array?, cut]
  rfl

theorem array?_comma {more : List Char} {c : Char} {text : List Char}
    (read : array? budget false (c :: more) = .ok (text, rest)) :
    array? (budget + 1) true (',' :: c :: more) = .ok (',' :: text, rest) := by
  have cut : (',' :: c :: more).span (fun c => isSpacing c || c == '\n' || c == '\r') =
      ([], ',' :: c :: more) := span_stop (by decide) _
  rw [array?, cut]
  simp only [bind, Except.bind, if_true, List.isEmpty_cons, Bool.false_eq_true, if_false, read]
  rfl

/-- An array goes on after an item as it does after a comma or its end. -/
theorem array?_item (item : List Char) (blanks : Nat) {c : Char} (separates : c = ',' ∨ c = ']')
    {more text : List Char}
    (read : array? (budget + 1) true (c :: more) = .ok (text, rest)) :
    array? (budget + 2) false (List.replicate blanks ' ' ++ (basicString item ++ c :: more)) =
      .ok (List.replicate blanks ' ' ++ (basicString item ++ text), rest) := by
  have spaces : ∀ c ∈ List.replicate blanks ' ',
      (isSpacing c || c == '\n' || c == '\r') = true := by
    intro c member
    rw [List.eq_of_mem_replicate member]
    decide
  have noQuote : c ≠ '"' := by
    rcases separates with rfl | rfl <;> decide
  have value : element? (budget + 1) (basicString item ++ c :: more) =
      .ok (.value .plain (basicString item) {}, c :: more) := element?_text item noQuote
  rw [basicString, List.cons_append, List.cons_append] at value ⊢
  have cut := span_cons _ spaces (c := '"') (by decide)
    (item.flatMap basicChar ++ ['"'] ++ c :: more)
  rw [array?, cut]
  simp only [bind, Except.bind, Bool.false_eq_true, if_false, value, read]
  rw [← List.append_assoc]
  rfl

theorem array?_texts (rest : List Char) (texts : List (List Char)) (budget : Nat)
    (enough : 2 * texts.length + 2 ≤ budget) (blanks : Nat) :
    array? budget false (List.replicate blanks ' ' ++
        ([',', ' '].intercalate (texts.map basicString) ++ ']' :: rest)) =
      .ok (List.replicate blanks ' ' ++ ([',', ' '].intercalate (texts.map basicString) ++ [']']),
        rest) := by
  obtain ⟨budget, rfl⟩ : ∃ more, budget = more + 2 := ⟨budget - 2, by omega⟩
  induction texts generalizing budget blanks with
  | nil =>
    have spaces : ∀ c ∈ List.replicate blanks ' ',
        (isSpacing c || c == '\n' || c == '\r') = true := by
      intro c member
      rw [List.eq_of_mem_replicate member]
      decide
    have cut := span_cons _ spaces (c := ']') (by decide) rest
    have closes : element? (budget + 1) (']' :: rest) = .error (.unexpected (']' :: rest)) := by
      rw [element?, if_neg (by decide), if_neg (by decide), if_neg (by decide), if_neg (by decide),
        if_neg (by simp [List.isPrefixOf])]
    rw [List.map_nil, List.intercalate_nil, List.nil_append, List.nil_append, array?, cut]
    simp only [bind, Except.bind]
    rw [if_neg Bool.false_ne_true, closes]
    rfl
  | cons t texts ih =>
    cases texts with
    | nil =>
      rw [List.map_singleton, List.intercalate_singleton]
      exact array?_item t blanks (.inr rfl) array?_closing
    | cons next texts =>
      obtain ⟨budget, rfl⟩ : ∃ more, budget = more + 2 := ⟨budget - 2, by
        rw [List.length_cons] at enough
        omega⟩
      have later := ih 1 budget (by
        rw [List.length_cons] at enough
        omega)
      rw [List.replicate_one, List.singleton_append, List.singleton_append] at later
      have whole := array?_item t blanks (.inl rfl) (array?_comma later)
      simpa [List.intercalate_cons_cons] using whole

end

/-! ### Simple values -/

theorem length_texts (texts : List (List Char)) :
    2 * texts.length ≤ ([',', ' '].intercalate (texts.map basicString)).length := by
  induction texts with
  | nil => exact Nat.le_refl _
  | cons t texts ih =>
    have quotes : 2 ≤ (basicString t).length := by
      simp [basicString]
    cases texts with
    | nil => simpa using quotes
    | cons next texts =>
      rw [List.map_cons, List.map_cons, List.intercalate_cons_cons, ← List.map_cons,
        List.length_append, List.length_append, List.length_cons]
      omega

/-- The value of a written line is read as it was written. -/
theorem element?_simple {node : Node} (simple : Simple node) (worded : IsWorded node)
    (rest : List Char) :
    element? ((writtenNode node ++ '\n' :: rest).length + 1) (writtenNode node ++ '\n' :: rest) =
      .ok (.value (sortOf node) (writtenNode node) {}, '\n' :: rest) := by
  cases simple with
  | text s =>
    rw [writtenNode]
    exact element?_text s.toList (by decide)
  | integer n =>
    rw [writtenNode]
    exact element?_number (fun c => isWordChar_of_mem_integer) (startsNumber_integer n) worded
  | float x =>
    rw [writtenNode]
    exact element?_number (fun c => isWordChar_of_mem_float) (startsNumber_float x) worded
  | boolean b => exact element?_boolean b
  | texts items =>
    have long := length_texts (items.map String.toList)
    have whole : writtenNode (.array (items.map .text)) ++ '\n' :: rest =
        '[' :: ([',', ' '].intercalate ((items.map String.toList).map basicString) ++
          ']' :: '\n' :: rest) := by
      rw [writtenNode_texts]
      simp
    have read := array?_texts ('\n' :: rest) (items.map String.toList)
      (writtenNode (.array (items.map .text)) ++ '\n' :: rest).length (by
        rw [whole, List.length_cons, List.length_append, List.length_cons, List.length_cons]
        omega) 0
    rw [List.replicate_zero, List.nil_append, List.nil_append] at read
    rw [whole] at read ⊢
    rw [element?, if_neg (by decide), if_pos (by decide), read, writtenNode_texts]
    rfl

/-! ### Lines -/

theorem exists_cons_writtenNode {node : Node} (simple : Simple node) :
    ∃ c more, writtenNode node = c :: more ∧ c ≠ '=' ∧ isSpacing c = false := by
  have number {text : List Char} (starts : StartsNumber text) :
      ∃ c more, text = c :: more ∧ c ≠ '=' ∧ isSpacing c = false := by
    rcases starts with ⟨c, more, rfl, digit | rfl⟩ | rfl | rfl
    · have other {d : Char} (letter : d.isDigit = false) : c ≠ d := by
        rintro rfl
        rw [digit] at letter
        cases letter
      refine ⟨c, more, rfl, other rfl, ?_⟩
      simp [isSpacing, other (d := ' ') rfl, other (d := '\t') rfl]
    · exact ⟨_, _, rfl, by decide, rfl⟩
    · exact ⟨_, _, rfl, by decide, rfl⟩
    · exact ⟨_, _, rfl, by decide, rfl⟩
  cases simple with
  | text s =>
    rw [writtenNode]
    exact ⟨_, _, rfl, by decide, rfl⟩
  | integer n =>
    rw [writtenNode]
    exact number (startsNumber_integer n)
  | float x =>
    rw [writtenNode]
    exact number (startsNumber_float x)
  | boolean b => cases b <;> exact ⟨_, _, rfl, by decide, rfl⟩
  | texts items =>
    rw [writtenNode_texts]
    exact ⟨_, _, rfl, by decide, rfl⟩

theorem exists_cons_writtenKey (key : List Char) :
    ∃ c more, writtenKey key = c :: more ∧ (isBareChar c = true ∨ c = '"') := by
  rcases writtenKey_cases key with ⟨same, filled, bare⟩ | same
  · obtain ⟨c, more, rfl⟩ := List.exists_cons_of_ne_nil filled
    exact ⟨c, more, same, .inl (bare c List.mem_cons_self)⟩
  · exact ⟨'"', _, same, .inr rfl⟩

/-- A setting as it is read with its layout. -/
def settingLine (key : String) (node : Node) : Line :=
  .entry [⟨key, writtenKey key.toList ++ [' ']⟩] ['=', ' ']
    (.value (sortOf node) (writtenNode node) {})

section

variable (rest : List Char)

theorem entry?_setting {node : Node} (simple : Simple node) (worded : IsWorded node)
    (key : String) :
    entry? ((Statement.setting key node).line ++ '\n' :: rest) =
      .ok (settingLine key node, rest) := by
  have whole : (Statement.setting key node).line ++ '\n' :: rest =
      writtenKey key.toList ++ ' ' :: '=' :: ' ' :: (writtenNode node ++ '\n' :: rest) := by
    simp [Statement.line]
  obtain ⟨d, value, shape, noEquals, noSpacing⟩ := exists_cons_writtenNode simple
  have read := element?_simple simple worded rest
  have keys := keys?_single (key?_writtenKey key.toList (' ' :: (writtenNode node ++ '\n' :: rest)))
    (by simp)
    (writtenKey key.toList ++ ' ' :: '=' :: ' ' :: (writtenNode node ++ '\n' :: rest)).length
  have separator : separator? ('=' :: ' ' :: (writtenNode node ++ '\n' :: rest)) =
      .ok (['=', ' '], writtenNode node ++ '\n' :: rest) := by
    rw [shape]
    exact separator?_equals noEquals noSpacing (value ++ '\n' :: rest)
  obtain ⟨c, more, start, first⟩ := exists_cons_writtenKey key.toList
  have noIndent : (writtenKey key.toList ++
      ' ' :: '=' :: ' ' :: (writtenNode node ++ '\n' :: rest)).span isSpacing =
        ([], writtenKey key.toList ++
          ' ' :: '=' :: ' ' :: (writtenNode node ++ '\n' :: rest)) := by
    rw [start]
    refine span_stop ?_ _
    rcases first with bare | rfl
    · exact isSpacing_of_isBareChar bare
    · decide
  rw [whole, entry?, noIndent]
  simp only [bind, Except.bind, keys, separator, read, lineEnd?_lineFeed]
  rw [String.ofList_toList]
  rfl

theorem line?_setting {node : Node} (simple : Simple node) (worded : IsWorded node)
    (key : String) :
    line? ((Statement.setting key node).line ++ '\n' :: rest) =
      .ok (settingLine key node, rest) := by
  have entry := entry?_setting rest simple worded key
  obtain ⟨c, more, start, first⟩ := exists_cons_writtenKey key.toList
  have other {d : Char} (special : isBareChar d = false) (noQuote : d ≠ '"') : c ≠ d := by
    rcases first with bare | rfl
    · exact ne_of_isBareChar bare special
    · exact noQuote.symm
  rw [Statement.line, start] at entry ⊢
  simp only [List.cons_append] at entry ⊢
  generalize more ++ [' ', '=', ' '] ++ writtenNode node ++ '\n' :: rest = line at entry ⊢
  have noIndent : (c :: line).span (fun c => isSpacing c || c == '\r') = ([], c :: line) := by
    refine span_stop ?_ _
    simp [isSpacing, other (d := ' ') rfl (by decide), other (d := '\t') rfl (by decide),
      other (d := '\r') rfl (by decide)]
  rw [line?, noIndent]
  dsimp only
  split
  · rename_i none
    cases none
  · rename_i feed
    exact absurd (List.cons.inj feed).1 (other rfl (by decide))
  · rename_i hash
    exact absurd (List.cons.inj hash).1 (other rfl (by decide))
  · rename_i bracket
    exact absurd (List.cons.inj bracket).1 (other rfl (by decide))
  · exact entry

theorem line?_gap : line? ('\n' :: rest) = .ok (.blank ['\n'], rest) := by
  have noIndent : ('\n' :: rest).span (fun c => isSpacing c || c == '\r') = ([], '\n' :: rest) :=
    span_stop (by decide) rest
  rw [line?, noIndent]
  rfl

theorem line?_comment {comment : List Char} (plain : ∀ c ∈ comment, isControl c = false) :
    line? ('#' :: (comment ++ '\n' :: rest)) =
      .ok (.comment ('#' :: (comment ++ ['\n'])), rest) := by
  have noIndent {p : Char → Bool} (stop : p '#' = false) :
      ('#' :: (comment ++ '\n' :: rest)).span p = ([], '#' :: (comment ++ '\n' :: rest)) :=
    span_stop stop _
  have cut : ('#' :: (comment ++ '\n' :: rest)).span (fun c => c != '\n' && c != '\r') =
      ('#' :: comment, '\n' :: rest) := by
    refine span_cons ('#' :: comment) (fun c member => ?_) (by decide) rest
    have noFeed : c ≠ '\n' ∧ c ≠ '\r' := by
      rcases List.mem_cons.1 member with rfl | inside
      · decide
      · constructor
        · rintro rfl
          cases plain _ inside
        · rintro rfl
          cases plain _ inside
    simp [noFeed]
  have tidy : ('#' :: comment).any (fun c => isControl c && c != '\t') = false := by
    rw [List.any_eq_false]
    intro c member
    rcases List.mem_cons.1 member with rfl | inside
    · decide
    · rw [plain c inside]
      exact Bool.false_ne_true
  have read : comment? ('#' :: (comment ++ '\n' :: rest)) = .ok ('#' :: comment, '\n' :: rest) := by
    rw [comment?, cut]
    dsimp only
    rw [tidy]
    rfl
  have ending : lineEnd? ('#' :: (comment ++ '\n' :: rest)) =
      .ok ({ comment := '#' :: comment }, rest) := by
    rw [lineEnd?, noIndent (by decide)]
    simp only [bind, Except.bind, read]
    rfl
  rw [line?, noIndent (by decide)]
  simp only [bind, Except.bind, ending]
  rfl

theorem line?_heading {name : String} (named : Named [name]) :
    line? ((Statement.heading [name]).line ++ '\n' :: rest) =
      .ok (.header { path := [.ofName name], inArray := false, margin := {} }, rest) := by
  obtain ⟨filled, bare⟩ := named.bare
  have same : writtenKey name.toList = name.toList := writtenKey_bare filled bare
  have whole : (Statement.heading [name]).line ++ '\n' :: rest =
      '[' :: (name.toList ++ ']' :: '\n' :: rest) := by
    simp [Statement.line, pathText, Key.ofName, same]
  have read := key?_bare filled bare 0 (c := ']') rfl rfl ('\n' :: rest)
  rw [List.replicate_zero, List.append_nil] at read
  have keys := keys?_single read (by simp) (name.toList ++ ']' :: '\n' :: rest).length
  have opens : opening? [] (name.toList ++ ']' :: '\n' :: rest) =
      .ok (.header { path := [.ofName name], inArray := false, margin := {} }, rest) := by
    unfold opening?
    split
    rename_i inArray after chosen
    have single : (inArray, after) = (false, name.toList ++ ']' :: '\n' :: rest) := by
      rw [← chosen]
      split
      · rename_i doubled
        obtain ⟨c, more, shape⟩ := List.exists_cons_of_ne_nil filled
        rw [shape] at doubled bare
        have first : isBareChar c = true := bare c List.mem_cons_self
        exact absurd (List.cons.inj doubled).1 (ne_of_isBareChar first rfl)
      · rfl
    cases single
    simp only [bind, Except.bind, keys]
    rw [if_neg Bool.false_ne_true, lineEnd?_lineFeed, String.ofList_toList, Key.ofName, same]
    rfl
  have noIndent : ('[' :: (name.toList ++ ']' :: '\n' :: rest)).span
      (fun c => isSpacing c || c == '\r') = ([], '[' :: (name.toList ++ ']' :: '\n' :: rest)) :=
    span_stop (by decide) _
  rw [whole, line?, noIndent]
  exact opens

end

end TypstMarkup.Toml
