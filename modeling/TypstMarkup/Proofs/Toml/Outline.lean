import TypstMarkup.Toml.Logical
import TypstMarkup.Proofs.Toml.Written

/-!
Written documents as logical lines. In what the writer writes, every key, text and bracket is closed
within its line, so the search for logical lines changes nothing but the comment on top: each line
of the document stands for itself.
-/
namespace TypstMarkup.Toml.Outline

/-! ### States within a line -/

/-- Before the first character of a line. -/
def atLine (text : Array Char) : Outline := { text }

/-- Within a bare key. -/
def inKey (text : Array Char) : Outline := { text, key := .within, fresh := false }

/-- Within a key in quotes. -/
def inQuotedKey (text : Array Char) : Outline :=
  { text, key := .within, quote := some '"', fresh := false }

/-- Behind a key. -/
def behindKey (text : Array Char) : Outline := { text, key := .behind, fresh := false }

/-- Outside texts, behind the equals sign or a header, so many brackets deep. -/
def inValue (depth : Int) (text : Array Char) : Outline := { text, depth, fresh := false }

/-- Within a text in a value. -/
def inText (depth : Int) (text : Array Char) : Outline :=
  { text, depth, quote := some '"', fresh := false }

/-- Within a header. -/
def inHeading (text : Array Char) : Outline := { text, heading := .table, fresh := false }

/-! ### Reading on -/

/-- A character whose step leads to another state is read as that step says. -/
theorem run_step (before : List Char) {o next : Outline} {rest : List Char} {c : Char}
    (text : o.text = (before ++ c :: rest).toArray)
    (steps : o.step before.length c = .ok (next, true)) :
    run (rest.length + 1) o = run rest.length next := by
  have position : o.text.size - (rest.length + 1) = before.length := by
    rw [text, List.size_toArray, List.length_append, List.length_cons, Nat.add_sub_cancel]
  have read : o.text[before.length]? = some c := by
    simp [text]
  rw [run, position]
  dsimp only
  rw [read]
  dsimp only
  rw [steps]
  rfl

/-- Reading a stretch of a text leads from one state to another and leaves the text as it is,
whatever comes after the stretch. -/
def Passes (before stretch : List Char) (start finish : Array Char → Outline) : Prop :=
  ∀ rest, run (stretch.length + rest.length) (start (before ++ (stretch ++ rest)).toArray) =
    run rest.length (finish (before ++ (stretch ++ rest)).toArray)

section

variable {before : List Char} {start middle finish : Array Char → Outline}

theorem passes_nil : Passes before [] start start := fun rest => by
  rw [List.length_nil, Nat.zero_add]

theorem Passes.append {stretch more : List Char} (first : Passes before stretch start middle)
    (then_ : Passes (before ++ stretch) more middle finish) :
    Passes before (stretch ++ more) start finish := by
  intro rest
  have head := first (more ++ rest)
  have tail := then_ rest
  rw [List.length_append] at head
  rw [List.append_assoc] at tail
  rw [List.length_append, Nat.add_assoc, List.append_assoc, head, tail]

/-- A character is passed if its step leads from the one state to the other. -/
theorem passes_cons {c : Char} {more : List Char} (same : ∀ text, (start text).text = text)
    (steps : ∀ rest, (start (before ++ c :: (more ++ rest)).toArray).step before.length c =
      .ok (middle (before ++ c :: (more ++ rest)).toArray, true))
    (onward : Passes (before ++ [c]) more middle finish) :
    Passes before (c :: more) start finish := by
  intro rest
  have tail := onward rest
  rw [List.append_assoc, List.singleton_append] at tail
  have head := run_step before (same _) (steps rest)
  rw [List.length_append] at head
  rw [List.cons_append, List.length_cons, Nat.add_right_comm, head, tail]

theorem passes_of_step {c : Char} (same : ∀ text, (start text).text = text)
    (steps : ∀ rest, (start (before ++ c :: rest).toArray).step before.length c =
      .ok (finish (before ++ c :: rest).toArray, true)) : Passes before [c] start finish :=
  passes_cons same steps passes_nil

end

/-- Characters that each keep a state are passed together. -/
theorem passes_all {state : Array Char → Outline} {stretch : List Char}
    (each : ∀ c ∈ stretch, ∀ before, Passes before [c] state state) (before : List Char) :
    Passes before stretch state state := by
  induction stretch generalizing before with
  | nil => exact passes_nil
  | cons c stretch ih =>
    rw [List.forall_mem_cons] at each
    exact (each.1 before).append (ih each.2 _)

/-! ### Looking back -/

section

variable {o : Outline} {before rest : List Char}
  (text : o.text = (before ++ rest).toArray)

include text

theorem back?_eq (front behind : List Char) {c : Char} (shape : before = front ++ c :: behind) :
    o.back? before.length (behind.length + 1) = some c := by
  subst shape
  have near : behind.length + 1 ≤ (front ++ c :: behind).length := by simp
  rw [back?, if_pos near, text, List.length_append, List.length_cons, Nat.add_sub_cancel]
  simp

/-- Behind a run of backslashes a character is escaped if their number is odd. -/
theorem escapedBehind_eq {front : List Char} (behind : List Char) {c : Char} (other : c ≠ '\\')
    {count most : Nat} (shape : before = front ++ c :: (List.replicate count '\\' ++ behind))
    (enough : count < most) :
    o.escapedBehind before.length most (behind.length + 1) = (count % 2 == 1) := by
  induction count generalizing behind most with
  | zero =>
    have seen := back?_eq text front behind shape
    obtain ⟨most, rfl⟩ := Nat.exists_eq_succ_of_ne_zero (Nat.ne_of_gt enough)
    simp [escapedBehind, seen, other]
  | succ count ih =>
    rw [List.replicate_succ', List.append_assoc, List.singleton_append] at shape
    have seen := back?_eq text (front ++ c :: List.replicate count '\\') behind
      (by rw [shape, List.append_assoc, List.cons_append])
    obtain ⟨most, rfl⟩ := Nat.exists_eq_succ_of_ne_zero (Nat.ne_zero_of_lt enough)
    have above := ih ('\\' :: behind) shape (Nat.lt_of_succ_lt_succ enough)
    rw [List.length_cons] at above
    rw [escapedBehind, seen, above]
    rcases Nat.mod_two_eq_zero_or_one count with even | odd
    · simp [even, Nat.add_mod]
    · simp [odd, Nat.add_mod]

end

/-- Behind such a text a double quote is neither escaped nor the third in a row. -/
inductive Settled : List Char → Prop
  | other {front : List Char} {c : Char} (noQuote : c ≠ '"') (noSlash : c ≠ '\\') :
    Settled (front ++ [c])
  | quote {front : List Char} {c : Char} (noQuote : c ≠ '"') : Settled (front ++ [c, '"'])
  | slashes {front : List Char} {c : Char} (noSlash : c ≠ '\\') (pairs : Nat) :
    Settled (front ++ c :: List.replicate (2 * pairs + 2) '\\')

theorem Settled.exists_run {before : List Char} (settled : Settled before) :
    ∃ front c pairs, c ≠ '\\' ∧ before = front ++ c :: List.replicate (2 * pairs) '\\' := by
  cases settled with
  | other _ noSlash => exact ⟨_, _, 0, noSlash, rfl⟩
  | @quote front c _ => exact ⟨front ++ [c], '"', 0, by decide, by simp⟩
  | slashes noSlash pairs => exact ⟨_, _, pairs + 1, noSlash, rfl⟩

theorem Settled.append_pair {before : List Char} (settled : Settled before) :
    Settled (before ++ ['\\', '\\']) := by
  obtain ⟨front, c, pairs, noSlash, rfl⟩ := settled.exists_run
  have run : front ++ c :: List.replicate (2 * pairs) '\\' ++ ['\\', '\\'] =
      front ++ c :: List.replicate (2 * pairs + 2) '\\' := by
    rw [List.append_assoc, List.cons_append, ← List.replicate_append_replicate]
    rfl
  rw [run]
  exact .slashes noSlash pairs

theorem Settled.append_other {before : List Char} {c : Char} (noQuote : c ≠ '"')
    (noSlash : c ≠ '\\') (front : List Char) : Settled (before ++ (front ++ [c])) := by
  rw [← List.append_assoc]
  exact .other noQuote noSlash

/-- Behind the writing of a character the same holds again. -/
theorem Settled.append_escaped {before written : List Char} {c : Char} (settled : Settled before)
    (escaped : Escaped c written) : Settled (before ++ written) := by
  cases escaped with
  | itself noQuote noSlash _ => exact .other noQuote noSlash
  | @short letter known =>
    by_cases quote : letter = '"'
    · subst quote
      exact .quote (by decide)
    by_cases slash : letter = '\\'
    · subst slash
      exact settled.append_pair
    · exact Settled.append_other quote slash ['\\']
  | code _ =>
    obtain ⟨digits, last, same, noQuote, noSlash⟩ := exists_last_hexDigits c.toNat
    rw [same]
    exact Settled.append_other noQuote noSlash ('\\' :: 'u' :: digits)

section

variable {o : Outline} {before rest : List Char} {most : Nat} (settled : Settled before)

include settled

theorem escapedBehind_settled (text : o.text = (before ++ rest).toArray)
    (enough : before.length ≤ most) : o.escapedBehind before.length most 1 = false := by
  obtain ⟨front, c, pairs, noSlash, shape⟩ := settled.exists_run
  have fits : 2 * pairs < most := by
    rw [shape, List.length_append, List.length_cons, List.length_replicate] at enough
    omega
  have parity := escapedBehind_eq text [] noSlash (by rwa [List.append_nil]) fits
  rw [List.length_nil, Nat.zero_add, Nat.mul_mod_right] at parity
  exact parity

theorem escapedBehind_slash (text : o.text = (before ++ ['\\'] ++ rest).toArray)
    (enough : (before ++ ['\\']).length ≤ most) :
    o.escapedBehind (before ++ ['\\']).length most 1 = true := by
  obtain ⟨front, c, pairs, noSlash, shape⟩ := settled.exists_run
  have longer : before ++ ['\\'] = front ++ c :: (List.replicate (2 * pairs + 1) '\\' ++ []) := by
    rw [shape, List.replicate_succ', List.append_nil, List.append_assoc, List.cons_append]
  have fits : 2 * pairs + 1 < most := by
    rw [longer, List.length_append, List.length_cons, List.length_append,
      List.length_replicate] at enough
    omega
  have parity := escapedBehind_eq text [] noSlash longer fits
  rw [List.length_nil, Nat.zero_add, Nat.mul_add_mod] at parity
  exact parity

end

/-! ### Single characters -/

section

variable {before : List Char} {depth : Int} {c : Char}

theorem passes_inText (noQuote : c ≠ '"') (noFeed : c ≠ '\n') :
    Passes before [c] (inText depth) (inText depth) := by
  apply passes_of_step fun _ => rfl
  intro rest
  simp [step, Except.map, inText, readQuote, isPlain, readBracket, readFirst, noQuote, noFeed]

theorem passes_word (noQuote : c ≠ '"') (noApostrophe : c ≠ '\'') (noComment : c ≠ '#')
    (noOpening : c ≠ '[') (noClosing : c ≠ ']') (noFeed : c ≠ '\n') :
    Passes before [c] (inValue depth) (inValue depth) := by
  apply passes_of_step fun _ => rfl
  intro rest
  simp [step, Except.map, inValue, readQuote, isPlain, readBracket, readFirst, noQuote,
    noApostrophe, noComment, noOpening, noClosing, noFeed]

theorem passes_opening : Passes before ['['] (inValue depth) (inValue (depth + 1)) := by
  apply passes_of_step fun _ => rfl
  intro rest
  simp [step, Except.map, inValue, readQuote, isPlain, readBracket, readFirst]

theorem passes_closing : Passes before [']'] (inValue depth) (inValue (depth - 1)) := by
  apply passes_of_step fun _ => rfl
  intro rest
  simp [step, Except.map, inValue, readQuote, isPlain, readBracket, readFirst]

theorem passes_lineFeed : Passes before ['\n'] (inValue 0) atLine := by
  apply passes_of_step fun _ => rfl
  intro rest
  simp [step, Except.map, inValue, atLine, readQuote, isPlain, readBracket, readLineFeed]

theorem passes_blankLine : Passes before ['\n'] atLine atLine := by
  apply passes_of_step fun _ => rfl
  intro rest
  simp [step, Except.map, atLine, readQuote, isPlain, readBracket, readLineFeed]

theorem passes_inHeading (noQuote : c ≠ '"') (noApostrophe : c ≠ '\'') (noOpening : c ≠ '[')
    (noClosing : c ≠ ']') (noFeed : c ≠ '\n') : Passes before [c] inHeading inHeading := by
  apply passes_of_step fun _ => rfl
  intro rest
  simp [step, Except.map, inHeading, readQuote, isPlain, readBracket, readFirst, noQuote,
    noApostrophe, noOpening, noClosing, noFeed]

theorem passes_endHeading : Passes before [']'] inHeading (inValue 0) := by
  apply passes_of_step fun _ => rfl
  intro rest
  simp [step, Except.map, inHeading, inValue, readQuote, isPlain, readBracket, readFirst]

theorem passes_startHeading {more : List Char} {finish : Array Char → Outline} (single : c ≠ '[')
    (onward : Passes (before ++ ['[']) (c :: more) inHeading finish) :
    Passes before ('[' :: c :: more) atLine finish := by
  refine passes_cons (fun _ => rfl) (fun rest => ?_) onward
  simp [step, Except.map, atLine, inHeading, readQuote, isPlain, readBracket, readFirst, single]

theorem isAlphanumeric_of_isAlphanum (letter : c.isAlphanum = true) :
    Text.isAlphanumeric c = true := by
  have range := toNat_of_isAlphanum letter
  rw [Text.isAlphanumeric, if_pos (by omega), letter]

theorem passes_startKey (bare : isBareChar c = true) : Passes before [c] atLine inKey := by
  have other {d : Char} (special : isBareChar d = false) : c ≠ d := ne_of_isBareChar bare special
  apply passes_of_step fun _ => rfl
  intro rest
  simp [step, Except.map, atLine, inKey, readQuote, isPlain, readBracket, readFirst,
    other (d := '"') rfl, other (d := '\'') rfl, other (d := '#') rfl, other (d := '[') rfl,
    other (d := ']') rfl, other (d := '\n') rfl, other (d := ' ') rfl, other (d := '\t') rfl,
    other (d := '=') rfl]

theorem passes_inKey (bare : isBareChar c = true) : Passes before [c] inKey inKey := by
  have noFeed : c ≠ '\n' := ne_of_isBareChar bare rfl
  have noPoint : c ≠ '.' := ne_of_isBareChar bare rfl
  have allowed : (Text.isAlphanumeric c || c == '_' || c == '-') = true := by
    rcases isBareChar_cases bare with letter | rfl | rfl
    · rw [isAlphanumeric_of_isAlphanum letter, Bool.true_or, Bool.true_or]
    · decide
    · decide
  apply passes_of_step fun _ => rfl
  intro rest
  simp only [step, inKey, readKey, isBlank_of_isBareChar bare, allowed]
  simp [Except.map, noFeed, noPoint]

theorem passes_endKey : Passes before [' '] inKey behindKey := by
  apply passes_of_step fun _ => rfl
  intro rest
  simp [step, Except.map, inKey, behindKey, readKey, (by decide : Text.isBlank ' ' = true)]

theorem passes_behindKey : Passes before [' '] behindKey behindKey := by
  apply passes_of_step fun _ => rfl
  intro rest
  simp [step, Except.map, behindKey, readKey, (by decide : Text.isBlank ' ' = true)]

theorem passes_equals : Passes before ['='] behindKey (inValue 0) := by
  apply passes_of_step fun _ => rfl
  intro rest
  simp [step, Except.map, behindKey, inValue, readKey, endKey,
    (by decide : Text.isBlank '=' = false)]

theorem passes_inQuotedKey (noQuote : c ≠ '"') (noFeed : c ≠ '\n') :
    Passes before [c] inQuotedKey inQuotedKey := by
  apply passes_of_step fun _ => rfl
  intro rest
  simp [step, Except.map, inQuotedKey, readKey, noQuote.symm, noFeed]

end

/-! ### Quotes -/

section

variable {before : List Char} {depth : Int} (settled : Settled before)

include settled

theorem readQuote_settled {o : Outline} {rest : List Char}
    (text : o.text = (before ++ rest).toArray) (double : (o.quote != some '\'') = true) :
    o.readQuote before.length '"' = o.toggle '"' := by
  have unescaped : o.escapedBehind before.length (2 * o.text.size) 1 = false := by
    apply escapedBehind_settled settled text
    rw [text, List.size_toArray, List.length_append]
    omega
  have count : o.quotesBehind before.length '"' ≠ 2 := by
    cases settled with
    | other noQuote _ =>
      have seen := back?_eq text _ [] rfl
      rw [List.length_nil, Nat.zero_add] at seen
      simp only [quotesBehind, seen]
      simp [noQuote]
    | @quote front c noQuote =>
      have seen := back?_eq text front ['"'] rfl
      rw [List.length_singleton] at seen
      simp only [quotesBehind, seen]
      simp only [beq_iff_eq, Option.some.injEq, noQuote, if_false]
      split <;> decide
    | @slashes front c _ pairs =>
      have seen := back?_eq text (front ++ c :: List.replicate (2 * pairs + 1) '\\') []
        (by rw [List.replicate_succ', List.append_assoc, List.cons_append])
      rw [List.length_nil, Nat.zero_add] at seen
      simp only [quotesBehind, seen]
      rw [if_neg (by decide)]
      decide
  unfold readQuote
  rw [if_neg (by simp), if_pos (by rw [double]; rfl)]
  split
  · rw [if_neg (by rw [unescaped]; exact Bool.false_ne_true)]
  · rename_i two
    exact absurd two count
  · rfl

theorem readQuote_slash {o : Outline} {rest : List Char}
    (text : o.text = (before ++ ['\\'] ++ rest).toArray) (double : (o.quote != some '\'') = true) :
    o.readQuote (before ++ ['\\']).length '"' = o := by
  have escaped : o.escapedBehind (before ++ ['\\']).length (2 * o.text.size) 1 = true := by
    apply escapedBehind_slash settled text
    have longer : (before ++ ['\\'] ++ rest).length = (before ++ ['\\']).length + rest.length :=
      List.length_append
    rw [text, List.size_toArray, longer]
    omega
  have seen := back?_eq text before [] rfl
  rw [List.length_nil, Nat.zero_add] at seen
  have count : o.quotesBehind (before ++ ['\\']).length '"' = 0 := by
    simp only [quotesBehind, seen]
    rfl
  unfold readQuote
  rw [if_neg (by simp), if_pos (by rw [double]; rfl), count]
  exact if_pos escaped

theorem passes_openText : Passes before ['"'] (inValue depth) (inText depth) := by
  apply passes_of_step fun _ => rfl
  intro rest
  have quote := readQuote_settled (o := inValue depth (before ++ '"' :: rest).toArray)
    settled rfl rfl
  simp only [step, quote]
  simp [Except.map, inValue, inText, toggle, isPlain, readBracket, readFirst]

theorem passes_openKey : Passes before ['"'] atLine inQuotedKey := by
  apply passes_of_step fun _ => rfl
  intro rest
  have quote := readQuote_settled (o := atLine (before ++ '"' :: rest).toArray)
    settled rfl rfl
  simp only [step, quote]
  simp [Except.map, atLine, inQuotedKey, toggle, isPlain, readBracket, readFirst]

theorem passes_closeText : Passes before ['"'] (inText depth) (inValue depth) := by
  apply passes_of_step fun _ => rfl
  intro rest
  have quote := readQuote_settled (o := inText depth (before ++ '"' :: rest).toArray)
    settled rfl rfl
  simp only [step, quote]
  simp [Except.map, inValue, inText, toggle, isPlain, readBracket, readFirst]

theorem passes_closeKey : Passes before ['"'] inQuotedKey behindKey := by
  apply passes_of_step fun _ => rfl
  intro rest
  have unescaped := escapedBehind_settled (o := inQuotedKey (before ++ '"' :: rest).toArray)
    settled rfl (Nat.le_refl _)
  have read : (inQuotedKey (before ++ '"' :: rest).toArray).readKey before.length '"' =
      .ok (behindKey (before ++ '"' :: rest).toArray) := by
    rw [readKey, unescaped]
    rfl
  rw [step, read]
  rfl

theorem passes_quoteInText : Passes (before ++ ['\\']) ['"'] (inText depth) (inText depth) := by
  apply passes_of_step fun _ => rfl
  intro rest
  have quote := readQuote_slash (o := inText depth (before ++ ['\\'] ++ '"' :: rest).toArray)
    settled rfl rfl
  simp only [step, quote]
  simp [Except.map, inText, isPlain, readBracket, readFirst]

theorem passes_quoteInKey : Passes (before ++ ['\\']) ['"'] inQuotedKey inQuotedKey := by
  apply passes_of_step fun _ => rfl
  intro rest
  have escaped := escapedBehind_slash
    (o := inQuotedKey (before ++ ['\\'] ++ '"' :: rest).toArray) settled rfl (Nat.le_refl _)
  have read : (inQuotedKey (before ++ ['\\'] ++ '"' :: rest).toArray).readKey
      (before ++ ['\\']).length '"' =
        .ok (inQuotedKey (before ++ ['\\'] ++ '"' :: rest).toArray) := by
    rw [readKey, escaped]
    rfl
  rw [step, read]
  rfl

end

/-! ### Texts -/

/-- A state within a text: other characters and escaped quotes keep it. -/
structure IsWithin (state : Array Char → Outline) : Prop where
  other {before : List Char} {c : Char} (noQuote : c ≠ '"') (noFeed : c ≠ '\n') :
    Passes before [c] state state
  quote {before : List Char} (settled : Settled before) :
    Passes (before ++ ['\\']) ['"'] state state

theorem isWithin_inText (depth : Int) : IsWithin (inText depth) :=
  ⟨passes_inText, passes_quoteInText⟩

theorem isWithin_inQuotedKey : IsWithin inQuotedKey :=
  ⟨passes_inQuotedKey, passes_quoteInKey⟩

section

variable {state : Array Char → Outline} (within : IsWithin state) {before : List Char}

include within

theorem passes_escaped {c : Char} {written : List Char} (settled : Settled before)
    (escaped : Escaped c written) : Passes before written state state := by
  have slash {before : List Char} : Passes before ['\\'] state state :=
    within.other (by decide) (by decide)
  cases escaped with
  | itself noQuote _ noControl =>
    refine within.other noQuote ?_
    rintro rfl
    cases noControl
  | @short letter known =>
    refine slash.append ?_
    by_cases quote : letter = '"'
    · subst quote
      exact within.quote settled
    · refine within.other quote ?_
      rintro rfl
      revert known
      simp
  | code _ =>
    have letter {before : List Char} : Passes before ['u'] state state :=
      within.other (by decide) (by decide)
    refine slash.append (letter.append ?_)
    have allowed : ∀ n < 16, Nat.digitChar n ≠ '"' ∧ Nat.digitChar n ≠ '\n' := by decide
    refine passes_all (fun d (member : d ∈ Text.hexDigits 4 c.toNat) _ => ?_) _
    obtain ⟨n, bound, rfl⟩ := Text.exists_digit_of_mem_hexDigits member
    exact within.other (allowed n bound).1 (allowed n bound).2

theorem passes_escapedText (settled : Settled before) (text : List Char) :
    Passes before (text.flatMap basicChar) state state ∧
      Settled (before ++ text.flatMap basicChar) := by
  induction text generalizing before with
  | nil =>
    rw [List.flatMap_nil, List.append_nil]
    exact ⟨passes_nil, settled⟩
  | cons c text ih =>
    have escaped := escaped_basicChar c
    obtain ⟨passes, after⟩ := ih (settled.append_escaped escaped)
    rw [List.flatMap_cons, ← List.append_assoc]
    exact ⟨(passes_escaped within settled escaped).append passes, after⟩

end

section

variable {before : List Char} {depth : Int}

/-- A basic string is passed as a whole: its quotes open and close a state within a text. -/
theorem passes_quoted {start state finish : Array Char → Outline} (within : IsWithin state)
    (opens : ∀ {before}, Settled before → Passes before ['"'] start state)
    (closes : ∀ {before}, Settled before → Passes before ['"'] state finish)
    {front : List Char} {c : Char} (noQuote : c ≠ '"') (noSlash : c ≠ '\\') (text : List Char) :
    Passes (front ++ [c]) (basicString text) start finish := by
  have inside : Settled (front ++ [c] ++ ['"']) := by
    rw [List.append_assoc]
    exact .quote noQuote
  obtain ⟨passes, after⟩ := passes_escapedText within inside text
  exact (opens (.other noQuote noSlash)).append (passes.append (closes after))

/-- A key is passed as a whole, up to the equals sign. -/
theorem passes_writtenKey (front key : List Char) :
    Passes (front ++ ['\n']) (writtenKey key ++ [' ', '=']) atLine (inValue 0) := by
  rcases writtenKey_cases key with ⟨same, filled, bare⟩ | same
  · rw [same]
    obtain ⟨c, rest, rfl⟩ := List.exists_cons_of_ne_nil filled
    rw [List.forall_mem_cons] at bare
    refine (passes_startKey bare.1).append ?_
    refine (passes_all (fun c member _ => passes_inKey (bare.2 c member)) _).append ?_
    exact passes_endKey.append passes_equals
  · rw [same]
    exact (passes_quoted isWithin_inQuotedKey passes_openKey passes_closeKey (by decide) (by decide)
      key).append (passes_behindKey.append passes_equals)

theorem passes_words {stretch : List Char} (words : ∀ c ∈ stretch, isWordChar c = true)
    (before : List Char) : Passes before stretch (inValue depth) (inValue depth) := by
  refine passes_all (fun c member before => ?_) before
  have word := words c member
  exact passes_word (ne_of_isWordChar word rfl) (ne_of_isWordChar word rfl)
    (ne_of_isWordChar word rfl) (ne_of_isWordChar word rfl) (ne_of_isWordChar word rfl)
    (ne_of_isWordChar word rfl)

end

/-! ### Lines -/

theorem passes_texts (front : List Char) {c : Char} (noQuote : c ≠ '"') (noSlash : c ≠ '\\')
    (texts : List (List Char)) :
    Passes (front ++ [c]) ([',', ' '].intercalate (texts.map basicString)) (inValue 1)
      (inValue 1) := by
  induction texts generalizing front c with
  | nil => exact passes_nil
  | cons s texts ih =>
    have first : Passes (front ++ [c]) (basicString s) (inValue 1) (inValue 1) :=
      passes_quoted (isWithin_inText 1) passes_openText passes_closeText noQuote noSlash s
    cases texts with
    | nil =>
      rw [List.map_singleton, List.intercalate_singleton]
      exact first
    | cons t texts =>
      have comma {before : List Char} : Passes before [','] (inValue 1) (inValue 1) :=
        passes_word (by decide) (by decide) (by decide) (by decide) (by decide) (by decide)
      have blank {before : List Char} : Passes before [' '] (inValue 1) (inValue 1) :=
        passes_word (by decide) (by decide) (by decide) (by decide) (by decide) (by decide)
      rw [List.map_cons, List.map_cons, List.intercalate_cons_cons, List.append_assoc]
      refine first.append (comma.append (blank.append ?_))
      exact ih _ (by decide) (by decide)

theorem passes_node {node : Node} (simple : Simple node) (front : List Char) :
    Passes (front ++ [' ']) (writtenNode node) (inValue 0) (inValue 0) := by
  cases simple with
  | text s =>
    rw [writtenNode]
    exact passes_quoted (isWithin_inText 0) passes_openText passes_closeText (by decide)
      (by decide) s.toList
  | integer n =>
    rw [writtenNode]
    exact passes_words (fun c => isWordChar_of_mem_integer) _
  | float x =>
    rw [writtenNode]
    exact passes_words (fun c => isWordChar_of_mem_float) _
  | boolean b =>
    have letters : (writtenNode (.boolean b)).all isWordChar = true := by
      cases b <;> decide
    exact passes_words (List.all_eq_true.1 letters) _
  | texts items =>
    have opening : Passes (front ++ [' ']) ['['] (inValue 0) (inValue 1) := passes_opening
    have closing {before : List Char} : Passes before [']'] (inValue 1) (inValue 0) :=
      passes_closing
    rw [writtenNode_texts]
    exact opening.append ((passes_texts _ (by decide) (by decide) _).append closing)

theorem passes_setting {node : Node} (simple : Simple node) (key front : List Char) :
    Passes (front ++ ['\n']) (writtenKey key ++ [' ', '=', ' '] ++ writtenNode node ++ ['\n'])
      atLine atLine := by
  have blank {before : List Char} : Passes before [' '] (inValue 0) (inValue 0) :=
    passes_word (by decide) (by decide) (by decide) (by decide) (by decide) (by decide)
  have whole := (passes_writtenKey front key).append
    (blank.append ((passes_node simple _).append passes_lineFeed))
  simpa using whole

theorem passes_heading {path : List Char} (filled : path ≠ [])
    (bare : ∀ c ∈ path, isBareChar c = true ∨ c = '.') (front : List Char) :
    Passes (front ++ ['\n']) ('[' :: path ++ [']'] ++ ['\n']) atLine atLine := by
  have other {d : Char} (special : isBareChar d = false) (noPoint : d ≠ '.') :
      ∀ c ∈ path, c ≠ d := by
    intro c member
    rcases bare c member with letter | rfl
    · exact ne_of_isBareChar letter special
    · exact noPoint.symm
  have noOpening := other (d := '[') rfl (by decide)
  have inside : Passes (front ++ ['\n'] ++ ['[']) path inHeading inHeading :=
    passes_all (fun c member _ => passes_inHeading (other (d := '"') rfl (by decide) c member)
      (other (d := '\'') rfl (by decide) c member) (noOpening c member)
      (other (d := ']') rfl (by decide) c member)
      (other (d := '\n') rfl (by decide) c member)) _
  have whole := inside.append (passes_endHeading.append passes_lineFeed)
  obtain ⟨c, rest, rfl⟩ := List.exists_cons_of_ne_nil filled
  rw [List.cons_append, List.cons_append, List.append_assoc]
  exact passes_startHeading (noOpening c List.mem_cons_self) whole

theorem passes_statement {s : Statement} (plain : s.Plain) (front : List Char) :
    Passes (front ++ ['\n']) (s.line ++ ['\n']) atLine atLine := by
  cases plain with
  | gap => exact passes_blankLine
  | heading named => exact passes_heading named.ne_nil named.isBareChar front
  | setting key simple => exact passes_setting simple key.toList front

theorem passes_statements {statements : List Statement} (plain : ∀ s ∈ statements, s.Plain)
    (front : List Char) :
    Passes (front ++ ['\n']) (linesText statements) atLine atLine := by
  induction statements generalizing front with
  | nil => exact passes_nil
  | cons s statements ih =>
    rw [List.forall_mem_cons] at plain
    have later := ih plain.2 (front ++ ['\n'] ++ s.line)
    rw [List.append_assoc (front ++ ['\n'])] at later
    exact (passes_statement plain.1 front).append later

/-! ### The comment on top -/

theorem blankLine_eq {line : List Char} (noFeed : '\n' ∉ line) (before rest : List Char)
    {budget : Nat} (enough : line.length < budget) :
    blankLine budget before.length (before ++ (line ++ '\n' :: rest)).toArray =
      ((before ++ (List.replicate line.length ' ' ++ '\n' :: rest)).toArray, true) := by
  obtain ⟨budget, rfl⟩ := Nat.exists_eq_succ_of_ne_zero (Nat.ne_zero_of_lt enough)
  induction line generalizing before budget with
  | nil => simp [blankLine]
  | cons c line ih =>
    rw [List.mem_cons, not_or] at noFeed
    obtain ⟨budget, rfl⟩ := Nat.exists_eq_succ_of_ne_zero
      (Nat.ne_zero_of_lt (Nat.lt_of_succ_lt_succ enough))
    have later := ih noFeed.2 (before ++ [' ']) budget (Nat.lt_of_succ_lt_succ enough)
    have read : (before ++ (c :: line ++ '\n' :: rest)).toArray[before.length]? = some c := by
      simp
    have blank : (before ++ (c :: line ++ '\n' :: rest)).toArray.setIfInBounds before.length ' ' =
        (before ++ [' '] ++ (line ++ '\n' :: rest)).toArray := by
      simp
    rw [List.length_append, List.length_singleton, ← blank] at later
    rw [blankLine, read]
    split
    · rename_i same
      exact absurd (Option.some.inj same).symm noFeed.1
    · rw [later, List.append_assoc, List.length_cons, List.replicate_succ]
      rfl
    · rename_i none
      cases none

theorem step_comment {text blanked : Array Char} {position : Nat}
    (blanks : blankLine (text.size + 1) position text = (blanked, true))
    (read : blanked[position]? = some ' ') :
    (atLine text).step position '#' = .ok (atLine blanked, true) := by
  simp [step, Except.map, atLine, readQuote, isPlain, readBracket, readFirst, blanks, read]

theorem passes_blank {before : List Char} : Passes before [' '] atLine atLine := by
  apply passes_of_step fun _ => rfl
  intro rest
  simp [step, Except.map, atLine, readQuote, isPlain, readBracket, readFirst]

/-- A comment on top becomes blank. -/
theorem run_comment {line : List Char} (noFeed : '\n' ∉ line) (rest : List Char) :
    run ('#' :: (line ++ '\n' :: rest)).length (atLine ('#' :: (line ++ '\n' :: rest)).toArray) =
      run rest.length
        (atLine (List.replicate (line.length + 1) ' ' ++ '\n' :: rest).toArray) := by
  have blanked : blankLine (('#' :: (line ++ '\n' :: rest)).toArray.size + 1) 0
      ('#' :: (line ++ '\n' :: rest)).toArray =
        ((List.replicate (line.length + 1) ' ' ++ '\n' :: rest).toArray, true) := by
    have noFeed : '\n' ∉ '#' :: line := by simpa using noFeed
    exact blankLine_eq noFeed [] rest (by
      rw [List.size_toArray, List.length_cons, List.length_cons, List.length_append]
      omega)
  have opening := step_comment blanked (by simp [List.replicate_succ])
  have blanks : Passes [' '] (List.replicate line.length ' ') atLine atLine :=
    passes_all (fun c member before => List.eq_of_mem_replicate member ▸ passes_blank) _
  have later := (blanks.append passes_blankLine) rest
  have head := run_step [] rfl opening
  have length : (line ++ '\n' :: rest).length =
      (List.replicate line.length ' ' ++ ['\n']).length + rest.length := by simp; omega
  have whole : List.replicate (line.length + 1) ' ' ++ '\n' :: rest =
      [' '] ++ (List.replicate line.length ' ' ++ ['\n'] ++ rest) := by
    simp [List.replicate_succ]
  rw [List.length_cons, head, length, whole]
  exact later

/-! ### Documents -/

theorem splitOn_linesText {statements : List Statement} (plain : ∀ s ∈ statements, s.Plain) :
    (linesText statements).splitOn '\n' = statements.map Statement.line ++ [[]] := by
  induction statements with
  | nil => rfl
  | cons s statements ih =>
    rw [List.forall_mem_cons] at plain
    have noFeed : ∀ c ∈ s.line, (c == '\n') = false := by
      intro c member
      rw [beq_eq_false_iff_ne]
      rintro rfl
      cases plain.1.isControl member
    have shape : linesText (s :: statements) = s.line ++ '\n' :: linesText statements := by
      simp [linesText]
    rw [shape, List.splitOn, List.splitOnP_append_cons_of_forall_mem noFeed '\n' rfl]
    rw [List.splitOn] at ih
    rw [ih plain.2]
    rfl

/-- The logical lines of a written document are its lines, the comment on top blank. -/
theorem logicalLines?_document {line : List Char} (noFeed : '\n' ∉ line)
    {statements : List Statement} (plain : ∀ s ∈ statements, s.Plain) :
    logicalLines? ('#' :: (line ++ '\n' :: linesText statements)) =
      .ok (List.replicate (line.length + 1) ' ' :: (statements.map Statement.line ++ [[]])) := by
  have comment := run_comment noFeed (linesText statements)
  have lines := passes_statements plain (List.replicate (line.length + 1) ' ') []
  rw [List.append_nil, List.append_assoc, List.singleton_append, List.length_nil,
    Nat.add_zero] at lines
  have whole : run ('#' :: (line ++ '\n' :: linesText statements)).length
      { text := ('#' :: (line ++ '\n' :: linesText statements)).toArray } =
        .ok (atLine (List.replicate (line.length + 1) ' ' ++
          '\n' :: linesText statements).toArray) :=
    comment.trans lines
  have split : (List.replicate (line.length + 1) ' ' ++ '\n' :: linesText statements).splitOn '\n' =
      List.replicate (line.length + 1) ' ' :: (statements.map Statement.line ++ [[]]) := by
    have blank : ∀ c ∈ List.replicate (line.length + 1) ' ', (c == '\n') = false := by
      intro c member
      rw [List.eq_of_mem_replicate member]
      rfl
    rw [List.splitOn, List.splitOnP_append_cons_of_forall_mem blank '\n' rfl, ← List.splitOn,
      splitOn_linesText plain]
  rw [logicalLines?, whole, ← split]
  rfl

end TypstMarkup.Toml.Outline
