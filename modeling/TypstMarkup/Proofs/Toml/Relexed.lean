import Mathlib.Data.List.Basic
import Mathlib.Data.List.TakeWhile
import TypstMarkup.Proofs.Toml.Nested

/-!
Lines that are read from their own text. What a key, a value, a comment or the end of a line is
read from does not depend on what comes behind it, as long as that starts as it may. So a document
that is put together from such lines is read as these lines, whatever document they come from.
-/
namespace TypstMarkup.Toml

/-! ### Spans -/

theorem span_front {p : Char → Bool} {front : List Char} (all : ∀ c ∈ front, p c = true)
    {rest : List Char} (stop : ∀ c ∈ rest.head?, p c = false) :
    (front ++ rest).span p = (front, rest) := by
  cases rest with
  | nil =>
    have whole : front.takeWhile p = front := List.takeWhile_eq_self_iff.2 all
    have none : front.dropWhile p = [] := List.dropWhile_eq_nil_iff.2 all
    rw [List.append_nil, List.span_eq_takeWhile_dropWhile, whole, none]
  | cons c rest => exact span_cons front all (stop c rfl) rest

theorem span_parts {p : Char → Bool} {source front rest : List Char}
    (cut : source.span p = (front, rest)) :
    source = front ++ rest ∧ (∀ c ∈ front, p c = true) ∧ ∀ c ∈ rest.head?, p c = false := by
  rw [List.span_eq_takeWhile_dropWhile, Prod.mk.injEq] at cut
  obtain ⟨rfl, rfl⟩ := cut
  refine ⟨List.takeWhile_append_dropWhile.symm, fun c => List.mem_takeWhile_imp, ?_⟩
  intro c first
  have stop := List.head?_dropWhile_not p source
  rw [Option.mem_def.1 first] at stop
  exact stop

/-- A stretch that ended before more text came still ends there. -/
theorem span_append {p : Char → Bool} {source front rest : List Char}
    (cut : source.span p = (front, rest)) {behind : List Char}
    (ended : rest = [] → ∀ c ∈ behind.head?, p c = false) :
    (source ++ behind).span p = (front, rest ++ behind) := by
  obtain ⟨rfl, all, stop⟩ := span_parts cut
  rw [List.append_assoc]
  refine span_front all fun c first => ?_
  cases rest with
  | nil => exact ended rfl c first
  | cons d rest => exact stop c first

/-! ### Strings -/

theorem escape?_append {block : Bool} {source text rest : List Char}
    (read : escape? block source = some (text, rest)) (ended : rest ≠ []) (behind : List Char) :
    escape? block (source ++ behind) = some (text, rest ++ behind) := by
  cases source with
  | nil => cases read
  | cons c more =>
    rw [List.cons_append]
    unfold escape? at read ⊢
    dsimp only at read ⊢
    split at read
    · rename_i hides
      rw [if_pos hides]
      split at read
      · rename_i feed
        cases read
        have cut := @span_append (fun c => isSpacing c || c == '\n' || c == '\r') (c :: more) _ _
          (Prod.eta _).symm behind fun none => absurd none ended
        rw [List.cons_append] at cut
        rw [cut, if_pos feed]
      · cases read
    · rename_i shows
      rw [if_neg shows]
      have codes {width : Nat}
          (code : (if more.length < width then none
            else (coded? (more.take width)).map fun c => ([c], more.drop width)) =
              some (text, rest)) :
          (if (more ++ behind).length < width then none
            else (coded? ((more ++ behind).take width)).map fun c =>
              ([c], (more ++ behind).drop width)) = some (text, rest ++ behind) := by
        split at code
        · cases code
        · rename_i long
          have enough : width ≤ more.length := Nat.le_of_not_lt long
          obtain ⟨c, known, same⟩ := Option.map_eq_some_iff.1 code
          cases same
          rw [if_neg (by rw [List.length_append]; omega), List.take_append_of_le_length enough,
            List.drop_append_of_le_length enough, known]
          rfl
      split at read
      all_goals first | exact codes read | (cases read; rfl) | cases read

theorem ne_nil_of_stringBody? {quote : Char} {block : Bool} {budget : Nat} {source : List Char}
    {r : List Char × List Char} (read : stringBody? quote block budget source = some r) :
    source ≠ [] := by
  rintro rfl
  cases budget <;> cases read

/-- Up to two quotes are part of a string over several lines, and three more end it. -/
theorem stringBody?_quotes {quote c : Char} {later quotes left : List Char}
    (closes : (c == quote) = true)
    (plain : ¬(isControl c && c != '\t' && !(true && (c == '\n' || c == '\r'))) = true)
    (cut : (c :: later).span (· == quote) = (quotes, left)) (budget : Nat) :
    stringBody? quote true (budget + 1) (c :: later) =
      if quotes.length < 3 then
        (stringBody? quote true budget left).map fun r => (quotes ++ r.1, r.2)
      else if quotes.length < 6 then some (quotes.drop 3, left)
      else none := by
  rw [stringBody?, if_neg plain, if_pos closes, if_neg (by decide), cut]

/-- More text behind a string does not change it. Behind closing quotes no other may follow. -/
theorem stringBody?_append {quote : Char} {block : Bool} {budget : Nat}
    {source text rest : List Char}
    (read : stringBody? quote block budget source = some (text, rest)) {more : Nat}
    (enough : budget ≤ more) {behind : List Char}
    (apart : rest = [] → behind.head? ≠ some quote) :
    stringBody? quote block more (source ++ behind) = some (text, rest ++ behind) := by
  induction budget generalizing source text more with
  | zero => cases read
  | succ budget ih =>
    obtain ⟨more, rfl⟩ := Nat.exists_eq_add_of_le' enough
    cases source with
    | nil => cases read
    | cons c later =>
      have onward {source text : List Char} {f : List Char → List Char}
          (read : (stringBody? quote block budget source).map (fun r => (f r.1, r.2)) =
            some (text, rest)) :
          (stringBody? quote block (more + budget) (source ++ behind)).map
            (fun r => (f r.1, r.2)) = some (text, rest ++ behind) := by
        obtain ⟨⟨inner, left⟩, body, same⟩ := Option.map_eq_some_iff.1 read
        cases same
        rw [ih body (Nat.le_add_left _ _)]
        rfl
      by_cases control : (isControl c && c != '\t' && !(block && (c == '\n' || c == '\r'))) = true
      · rw [stringBody?, if_pos control] at read
        cases read
      by_cases closes : (c == quote) = true
      · cases block with
        | false =>
          rw [stringBody?, if_neg control, if_pos closes] at read
          cases read
          rw [List.cons_append, ← Nat.add_assoc, stringBody?, if_neg control, if_pos closes]
          rfl
        | true =>
          obtain ⟨⟨quotes, left⟩, cut⟩ : ∃ r, (c :: later).span (· == quote) = r := ⟨_, rfl⟩
          have cutBehind (stops : left = [] → behind.head? ≠ some quote) :
              (c :: (later ++ behind)).span (· == quote) = (quotes, left ++ behind) := by
            refine span_append cut fun none d first => ?_
            rw [beq_eq_false_iff_ne]
            rintro rfl
            exact stops none first
          rw [stringBody?_quotes closes control cut] at read
          rw [List.cons_append, ← Nat.add_assoc]
          split at read
          · rename_i few
            obtain ⟨⟨inner, after⟩, body, -⟩ := Option.map_eq_some_iff.1 read
            rw [stringBody?_quotes closes control
              (cutBehind fun none => absurd none (ne_nil_of_stringBody? body)), if_pos few]
            exact onward read
          · rename_i many
            split at read
            · rename_i enough
              cases read
              rw [stringBody?_quotes closes control (cutBehind apart), if_neg many, if_pos enough]
            · cases read
      · rw [stringBody?, if_neg control, if_neg closes] at read
        rw [List.cons_append, ← Nat.add_assoc, stringBody?, if_neg control, if_neg closes]
        split at read
        · rename_i escapes
          rw [if_pos escapes]
          split at read
          · rename_i hidden left escaped
            obtain ⟨⟨inner, after⟩, body, -⟩ := Option.map_eq_some_iff.1 read
            rw [escape?_append escaped (ne_nil_of_stringBody? body) behind]
            exact onward read
          · cases read
        · rename_i itself
          rw [if_neg itself]
          exact onward read

/-- A string over several lines without the line feed that may stand first. -/
def dropFeed : List Char → List Char
  | '\n' :: body => body
  | '\r' :: '\n' :: body => body
  | body => body

/-- A body that can be read is long enough to show whether it starts with a line feed. -/
theorem dropFeed_append {quote : Char} (noReturn : '\r' ≠ quote) {budget : Nat}
    {body : List Char} {r : List Char × List Char}
    (read : stringBody? quote true budget (dropFeed body) = some r) (behind : List Char) :
    dropFeed (body ++ behind) = dropFeed body ++ behind := by
  cases body with
  | nil => cases budget <;> cases read
  | cons c body =>
    by_cases feed : c = '\n'
    · subst feed
      rfl
    by_cases back : c = '\r'
    · subst back
      cases body with
      | nil =>
        rcases budget with _ | _ | budget
        · cases read
        · simp [dropFeed, stringBody?, noReturn] at read
        · simp [dropFeed, stringBody?, noReturn] at read
      | cons d body =>
        by_cases feed : d = '\n'
        · subst feed
          rfl
        · simp [dropFeed, feed]
    · simp [dropFeed, feed, back]

theorem string?_tripled (quote : Char) (body : List Char) :
    string? (quote :: quote :: quote :: body) =
      (stringBody? quote true ((dropFeed body).length + 1) (dropFeed body)).map
        fun r => (r.1, true, r.2) := by
  simp only [string?, bne_self_eq_false, Bool.false_eq_true, if_false]
  rfl

/-- More text behind a string does not change it, unless another quote follows directly. -/
theorem string?_append {source text rest : List Char} {block : Bool}
    (read : string? source = some (text, block, rest)) (quoted : source.head? ≠ some '\r')
    {behind : List Char} (apart : rest = [] → behind.head? ≠ source.head?) :
    string? (source ++ behind) = some (text, block, rest ++ behind) := by
  match source, read with
  | quote :: c :: later, read =>
    unfold string? at read
    dsimp only at read
    split at read
    · rename_i other
      obtain ⟨⟨inner, after⟩, body, same⟩ := Option.map_eq_some_iff.1 read
      cases same
      have longer := stringBody?_append body (Nat.le_add_right _ behind.length) apart
      rw [List.cons_append, List.cons_append]
      unfold string?
      dsimp only
      rw [if_pos other, List.length_append, Nat.add_right_comm]
      rw [List.cons_append] at longer
      rw [longer]
      rfl
    · rename_i same
      have same : c = quote := by simpa using same
      subst same
      cases later with
      | nil =>
        cases read
        cases behind with
        | nil => simp [string?]
        | cons d behind =>
          have other : d ≠ c := fun same => apart rfl (by rw [same]; rfl)
          simp [string?, other]
      | cons d body =>
        dsimp only at read
        split at read
        · rename_i other
          cases read
          simp [string?, other]
        · rename_i same
          have same : d = c := by simpa using same
          subst same
          obtain ⟨⟨inner, after⟩, closed, shape⟩ := Option.map_eq_some_iff.1 read
          cases shape
          have noReturn : '\r' ≠ d := fun same => quoted (by rw [same]; rfl)
          have longer := stringBody?_append closed (Nat.le_add_right _ behind.length) apart
          rw [List.cons_append, List.cons_append, List.cons_append, string?_tripled,
            dropFeed_append noReturn closed, List.length_append, Nat.add_right_comm]
          exact congrArg (Option.map _) longer

/-! ### Keys -/

/-- Blanks within a line. -/
def IsSpace (text : List Char) : Prop :=
  ∀ c ∈ text, isSpacing c = true

/-- What a name may be written as in a key. -/
inductive IsName : List Char → String → Prop
  | bare {name : List Char} (filled : name ≠ []) (letters : ∀ c ∈ name, isBareChar c = true) :
    IsName name (String.ofList name)
  | quoted {written text : List Char} (quote : written.head? = some '"' ∨ written.head? = some '\'')
    (read : string? written = some (text, false, [])) : IsName written (String.ofList text)

/-- A key as documents show it: a name, and perhaps blanks around it. -/
inductive Key.IsWritten : Key → Prop
  | intro {before core after : List Char} {name : String} (spaceBefore : IsSpace before)
    (named : IsName core name) (spaceAfter : IsSpace after) :
    IsWritten ⟨name, before ++ core ++ after⟩

theorem isBlank_of_isSpacing {c : Char} (spacing : isSpacing c = true) : Text.isBlank c = true := by
  rw [isSpacing, Bool.or_eq_true, beq_iff_eq, beq_iff_eq] at spacing
  rcases spacing with rfl | rfl <;> decide

theorem strip_surrounded {before core after : List Char} (spaceBefore : IsSpace before)
    (filled : core ≠ []) (solid : ∀ c ∈ core, Text.isBlank c = false) (spaceAfter : IsSpace after) :
    Text.strip (before ++ core ++ after) = core := by
  have dropped {front rest : List Char} (blank : IsSpace front)
      (first : ∀ c ∈ rest.head?, Text.isBlank c = false) :
      (front ++ rest).dropWhile Text.isBlank = rest := by
    have cut := span_front (fun c listed => isBlank_of_isSpacing (blank c listed)) first
    rw [List.span_eq_takeWhile_dropWhile, Prod.mk.injEq] at cut
    exact cut.2
  have start : (before ++ core ++ after).dropWhile Text.isBlank = core ++ after := by
    rw [List.append_assoc]
    obtain ⟨d, more, rfl⟩ := List.exists_cons_of_ne_nil filled
    exact dropped spaceBefore fun c first => solid c (List.mem_of_mem_head? first)
  have finish : (after.reverse ++ core.reverse).dropWhile Text.isBlank = core.reverse := by
    refine dropped (fun c listed => spaceAfter c (List.mem_reverse.1 listed)) fun c first => ?_
    exact solid c (List.mem_reverse.1 (List.mem_of_mem_head? first))
  rw [Text.strip, start, List.reverse_append, finish, List.reverse_reverse]

/-- What may come behind a key. -/
def EndsKey (c : Char) : Prop :=
  c = '.' ∨ c = ']' ∨ c = '='

theorem EndsKey.not_inKey {c : Char} (ends : EndsKey c) :
    isBareChar c = false ∧ isSpacing c = false ∧ c ≠ '"' ∧ c ≠ '\'' := by
  rcases ends with rfl | rfl | rfl <;> decide

section

variable {before core after : List Char} (spaceBefore : IsSpace before)

include spaceBefore

theorem span_surrounded {first : Char} {more : List Char} (shape : core = first :: more)
    (solid : isSpacing first = false) (behind : List Char) :
    (before ++ core ++ behind).span isSpacing = (before, core ++ behind) := by
  rw [shape, List.append_assoc]
  exact span_cons before spaceBefore solid _

variable (spaceAfter : IsSpace after) {c : Char} (ends : EndsKey c) (rest : List Char)

include spaceAfter ends

theorem key?_bareName (filled : core ≠ []) (letters : ∀ c ∈ core, isBareChar c = true) :
    key? (before ++ core ++ after ++ c :: rest) =
      .ok (⟨String.ofList core, before ++ core ++ after⟩, c :: rest) := by
  obtain ⟨noBare, noSpacing, -, -⟩ := ends.not_inKey
  obtain ⟨first, more, shape⟩ := List.exists_cons_of_ne_nil filled
  have bare : isBareChar first = true := letters first (by rw [shape]; exact List.mem_cons_self)
  have start := span_surrounded spaceBefore shape (isSpacing_of_isBareChar bare)
    (after ++ c :: rest)
  rw [← List.append_assoc] at start
  have word : (before ++ core ++ after ++ c :: rest).span
      (fun c => isBareChar c || isSpacing c) = (before ++ core ++ after, c :: rest) := by
    refine span_cons _ (fun d listed => ?_) (by rw [noBare, noSpacing]; rfl) rest
    rw [List.mem_append, List.mem_append] at listed
    rcases listed with (space | letter) | space
    · rw [spaceBefore d space, Bool.or_true]
    · rw [letters d letter, Bool.true_or]
    · rw [spaceAfter d space, Bool.or_true]
  have name := strip_surrounded spaceBefore filled
    (fun d listed => isBlank_of_isBareChar (letters d listed)) spaceAfter
  have noSpace : core.contains ' ' = false := by
    rw [← Bool.not_eq_true, List.contains_iff_mem]
    intro listed
    cases letters ' ' listed
  unfold key?
  dsimp only
  rw [start, word, shape, List.cons_append]
  dsimp only
  split
  · rename_i same
    exact absurd (List.cons.inj same).1 (ne_of_isBareChar bare rfl)
  · rename_i same
    exact absurd (List.cons.inj same).1 (ne_of_isBareChar bare rfl)
  · rw [← shape, name, noSpace, List.isEmpty_eq_false_iff.2 filled]
    rfl

omit spaceBefore in
/-- No quotes follow the closing ones of a key. -/
theorem noQuote_behind {quote : Char} (isQuote : quote = '"' ∨ quote = '\'') :
    (after ++ c :: rest).head? ≠ some quote := by
  obtain ⟨-, -, noDouble, noSingle⟩ := ends.not_inKey
  cases after with
  | nil =>
    rcases isQuote with rfl | rfl
    · exact fun same => noDouble (Option.some.inj same)
    · exact fun same => noSingle (Option.some.inj same)
  | cons d after =>
    have spacing := spaceAfter d List.mem_cons_self
    intro same
    obtain rfl : d = quote := Option.some.inj same
    rcases isQuote with rfl | rfl <;> cases spacing

theorem key?_quotedName {text : List Char} (quote : core.head? = some '"' ∨ core.head? = some '\'')
    (whole : string? core = some (text, false, [])) :
    key? (before ++ core ++ after ++ c :: rest) =
      .ok (⟨String.ofList text, before ++ core ++ after⟩, c :: rest) := by
  obtain ⟨-, noSpacing, -, -⟩ := ends.not_inKey
  obtain ⟨first, more, shape⟩ : ∃ first more, core = first :: more := by
    refine List.exists_cons_of_ne_nil ?_
    rintro rfl
    cases whole
  have isQuote : first = '"' ∨ first = '\'' := by
    rw [shape] at quote
    simpa using quote
  have solid : isSpacing first = false := by rcases isQuote with rfl | rfl <;> decide
  have start := span_surrounded spaceBefore shape solid (after ++ c :: rest)
  rw [← List.append_assoc] at start
  have behind : (after ++ c :: rest).span isSpacing = (after, c :: rest) :=
    span_cons after spaceAfter noSpacing rest
  have longer := string?_append whole (by rcases quote with h | h <;> rw [h] <;> decide)
    fun _ => by
      rw [shape]
      exact noQuote_behind spaceAfter ends rest isQuote
  have taken : (core ++ (after ++ c :: rest)).take ((core ++ (after ++ c :: rest)).length -
      (c :: rest).length - after.length) = core := by
    refine List.take_left' ?_
    simp only [List.length_append, List.length_cons]
    omega
  have opened : core ++ (after ++ c :: rest) = first :: (more ++ (after ++ c :: rest)) := by
    rw [shape]
    rfl
  unfold key?
  dsimp only
  rw [start]
  rw [List.nil_append] at longer
  generalize core ++ (after ++ c :: rest) = source at longer taken opened
  subst opened
  rcases isQuote with rfl | rfl <;> simp only [longer, behind, taken]

end

namespace Key.IsWritten

/-- A key is read from its text. -/
theorem read {key : Key} (written : key.IsWritten) {c : Char} (ends : EndsKey c)
    (rest : List Char) : key? (key.written ++ c :: rest) = .ok (key, c :: rest) := by
  cases written with
  | intro spaceBefore named spaceAfter =>
    cases named with
    | bare filled letters => exact key?_bareName spaceBefore spaceAfter ends rest filled letters
    | quoted quote whole => exact key?_quotedName spaceBefore spaceAfter ends rest quote whole

theorem exists_cons {key : Key} (written : key.IsWritten) :
    ∃ c more, key.written = c :: more ∧
      (isSpacing c = true ∨ isBareChar c = true ∨ c = '"' ∨ c = '\'') := by
  cases written with
  | @intro before core after name spaceBefore named _ =>
    cases before with
    | cons c before => exact ⟨c, _, rfl, .inl (spaceBefore c List.mem_cons_self)⟩
    | nil =>
      cases named with
      | bare filled letters =>
        obtain ⟨c, more, rfl⟩ := List.exists_cons_of_ne_nil filled
        exact ⟨c, _, rfl, .inr (.inl (letters c List.mem_cons_self))⟩
      | quoted quote whole =>
        obtain ⟨c, more, rfl⟩ : ∃ c more, core = c :: more := by
          refine List.exists_cons_of_ne_nil ?_
          rintro rfl
          cases whole
        exact ⟨c, _, rfl, .inr (.inr (by simpa using quote))⟩

theorem ne_of_exists_cons {c d : Char}
    (starts : isSpacing c = true ∨ isBareChar c = true ∨ c = '"' ∨ c = '\'')
    (noSpacing : isSpacing d = false) (noBare : isBareChar d = false)
    (noQuote : d ≠ '"' ∧ d ≠ '\'') : c ≠ d := by
  rintro rfl
  rcases starts with spacing | bare | rfl | rfl
  · rw [noSpacing] at spacing
    cases spacing
  · rw [noBare] at bare
    cases bare
  · exact noQuote.1 rfl
  · exact noQuote.2 rfl

end Key.IsWritten

/-! ### Ends of lines -/

/-- Blanks at an end of a line. -/
def IsGap (text : List Char) : Prop :=
  ∀ c ∈ text, (isSpacing c || c == '\r') = true

/-- A comment, without the end of its line. -/
inductive IsComment : List Char → Prop
  | intro {text : List Char}
    (plain : ∀ c ∈ text, c ≠ '\n' ∧ c ≠ '\r' ∧ (isControl c && c != '\t') = false) :
    IsComment ('#' :: text)

/-- What stands around a value or a header: behind it come blanks or a comment, then perhaps the end
of the line. -/
inductive Margin.IsWritten : Margin → Prop
  | plain {indent gap feed : List Char} (blank : IsGap gap) (feeds : feed = [] ∨ feed = ['\n']) :
    IsWritten { indent, ending := gap ++ feed }
  | commented {indent gap comment feed : List Char} (blank : IsGap gap)
    (isComment : IsComment comment) (feeds : feed = [] ∨ feed = ['\n'] ∨ feed = ['\r', '\n']) :
    IsWritten { indent, gap, comment, ending := feed }

/-- Nothing but a line feed. -/
theorem Margin.isWritten_default : Margin.IsWritten {} :=
  @IsWritten.plain [] [] ['\n'] (List.forall_mem_nil _) (.inr rfl)

theorem Margin.IsWritten.withIndent {margin : Margin} (written : margin.IsWritten)
    (indent : List Char) : Margin.IsWritten { margin with indent } := by
  cases written with
  | plain blank feeds => exact .plain blank feeds
  | commented blank isComment feeds => exact .commented blank isComment feeds

/-- What stands behind a value or a header. -/
def Margin.behind (margin : Margin) : List Char :=
  margin.gap ++ margin.comment ++ margin.ending

/-- Whether a text ends with a line feed. -/
def Closes (text : List Char) : Prop :=
  text.getLast? = some '\n'

theorem IsGap.not_closes {gap : List Char} (blank : IsGap gap) : ¬Closes gap := by
  intro closes
  cases blank '\n' (List.mem_of_mem_getLast? closes)

theorem IsComment.not_closes {comment : List Char} (isComment : IsComment comment)
    (before : List Char) : ¬Closes (before ++ comment) := by
  intro closes
  cases isComment with
  | @intro text plain =>
    have last : '\n' ∈ ('#' :: text).getLast? := by
      rwa [Closes, List.getLast?_append_cons] at closes
    rcases List.mem_cons.1 (List.mem_of_mem_getLast? last) with hash | listed
    · cases hash
    · exact (plain _ listed).1 rfl

theorem IsComment.read {comment : List Char} (isComment : IsComment comment) {rest : List Char}
    (ends : ∀ c ∈ rest.head?, c = '\n' ∨ c = '\r') :
    comment? (comment ++ rest) = .ok (comment, rest) := by
  cases isComment with
  | @intro text plain =>
    have cut : ('#' :: text ++ rest).span (fun c => c != '\n' && c != '\r') =
        ('#' :: text, rest) := by
      refine span_front (fun c listed => ?_) fun c first => ?_
      · rcases List.mem_cons.1 listed with rfl | listed
        · decide
        · obtain ⟨noFeed, noReturn, -⟩ := plain c listed
          simp [noFeed, noReturn]
      · rcases ends c first with rfl | rfl <;> decide
    have tidy : ('#' :: text).any (fun c => isControl c && c != '\t') = false := by
      rw [List.any_eq_false]
      intro c listed
      rw [Bool.not_eq_true]
      rcases List.mem_cons.1 listed with rfl | listed
      · decide
      · exact (plain c listed).2.2
    rw [comment?, cut]
    dsimp only
    rw [tidy]
    rfl

/-- The end of a line is read from its text. -/
theorem Margin.IsWritten.read {margin : Margin} (written : margin.IsWritten) {rest : List Char}
    (closed : Closes margin.ending ∨ rest = []) :
    lineEnd? (margin.behind ++ rest) = .ok ({ margin with indent := [] }, rest) := by
  cases written with
  | @plain indent gap feed blank feeds =>
    have whole : Margin.behind { indent, ending := gap ++ feed } ++ rest =
        gap ++ (feed ++ rest) := by
      simp [Margin.behind]
    rw [whole, lineEnd?]
    rcases feeds with rfl | rfl
    · have none : rest = [] := closed.resolve_left (by rw [List.append_nil]; exact blank.not_closes)
      subst none
      rw [List.append_nil, span_front blank (fun _ first => by cases first)]
      simp [pure, Except.pure]
    · rw [span_front blank fun c first => ?_]
      · rfl
      · cases first
        decide
  | @commented indent gap comment feed blank isComment feeds =>
    have whole : Margin.behind { indent, gap, comment, ending := feed } ++ rest =
        gap ++ (comment ++ (feed ++ rest)) := by
      simp [Margin.behind]
    have ends : ∀ c ∈ (feed ++ rest).head?, c = '\n' ∨ c = '\r' := by
      intro c first
      rcases feeds with rfl | rfl | rfl
      · rw [closed.resolve_left (by simp [Closes])] at first
        cases first
      · cases first
        exact .inl rfl
      · cases first
        exact .inr rfl
    have read := isComment.read ends
    rw [whole, lineEnd?]
    obtain ⟨text, rfl⟩ : ∃ text, comment = '#' :: text := by
      cases isComment
      exact ⟨_, rfl⟩
    rw [List.cons_append, span_front blank fun c first => ?_]
    · rw [List.cons_append] at read
      simp only [bind, Except.bind, read]
      rcases feeds with rfl | rfl | rfl
      · rw [closed.resolve_left (by simp [Closes])]
        rfl
      · rfl
      · rfl
    · cases first
      decide

/-! ### Values -/

/-- Whether a text, if there is any, starts with a character that ends a word. -/
def Stops (text : List Char) : Prop :=
  ∀ c ∈ text.head?, endsWord c = true

/-- Whether a text starts as numbers and moments do. -/
def startsWord (text : List Char) : Bool :=
  text.head?.any (fun c => c.isDigit || c == '+' || c == '-') ||
    ['i', 'n', 'f'].isPrefixOf text || ['n', 'a', 'n'].isPrefixOf text

/-- A number, or a moment that is more than a day. -/
structure IsWord (word : List Char) : Prop where
  starts : startsWord word = true
  letters : ∀ c ∈ word, endsWord c = false
  noDay : isDay word = false
  known : (isInstant word || isNumber word) = true

/-- Digits are a word, and no day. -/
theorem isWord_digits {digits : List Char} (tidy : IsTidy digits) : IsWord digits := by
  have years : digits.span Char.isDigit = (digits, []) := by
    rw [List.span_eq_takeWhile_dropWhile, List.takeWhile_eq_self_iff.2 tidy.isDigit,
      List.dropWhile_eq_nil_iff.2 tidy.isDigit]
  refine ⟨?_, fun c listed => ?_, ?_, ?_⟩
  · obtain ⟨c, more, rfl⟩ := List.exists_cons_of_ne_nil tidy.ne_nil
    simp [startsWord, tidy.isDigit c List.mem_cons_self]
  · have other {d : Char} (noDigit : d.isDigit = false) : c ≠ d := by
      rintro rfl
      rw [tidy.isDigit c listed] at noDigit
      cases noDigit
    simp [endsWord, isSpacing, other (d := ' ') rfl, other (d := '\t') rfl, other (d := '\n') rfl,
      other (d := '\r') rfl, other (d := '#') rfl, other (d := ',') rfl, other (d := ']') rfl,
      other (d := '}') rfl]
  · rw [isDay, afterDay?, years]
    rfl
  · rw [(isNumber_digits tidy).1, Bool.or_true]

def truthText (b : Bool) : List Char :=
  if b then ['t', 'r', 'u', 'e'] else ['f', 'a', 'l', 's', 'e']

/-- Blanks and line feeds. -/
def IsLayout (text : List Char) : Prop :=
  ∀ c ∈ text, (isSpacing c || c == '\n' || c == '\r') = true

mutual

/-- A value as documents show it: a string, a word, a truth value or an array of them. -/
inductive IsValue : ValueSort → List Char → Prop
  | text {written text : List Char} {block : Bool}
    (quote : written.head? = some '"' ∨ written.head? = some '\'')
    (whole : string? written = some (text, block, [])) : IsValue .plain written
  | word {word : List Char} (isWord : IsWord word) : IsValue .plain word
  | truth (b : Bool) : IsValue (.truth b) (truthText b)
  | array {inner : List Char} (isArray : IsArray false inner) : IsValue .plain ('[' :: inner)

/-- What follows the opening bracket of an array, or one of its items. -/
inductive IsArray : Bool → List Char → Prop
  | closing (filled : Bool) {gap : List Char} (blank : IsLayout gap) : IsArray filled (gap ++ [']'])
  | comment {filled : Bool} {gap comment rest : List Char} (blank : IsLayout gap)
    (isComment : IsComment comment) (feed : rest.head? = some '\n' ∨ rest.head? = some '\r')
    (later : IsArray filled rest) : IsArray filled (gap ++ (comment ++ rest))
  | comma {gap rest : List Char} (blank : IsLayout gap) (later : IsArray false rest) :
    IsArray true (gap ++ ',' :: rest)
  | item {gap text rest : List Char} {sort : ValueSort} (blank : IsLayout gap)
    (isValue : IsValue sort text) (later : IsArray true rest) :
    IsArray false (gap ++ (text ++ rest))

end

/-- Behind an item nothing follows that could be part of it. -/
theorem IsArray.stops {inner : List Char} (isArray : IsArray true inner) (behind : List Char) :
    Stops (inner ++ behind) := by
  have layout {gap rest : List Char} (blank : IsLayout gap) (stops : Stops rest) :
      Stops (gap ++ rest) := by
    cases gap with
    | nil => exact stops
    | cons c gap =>
      intro d first
      cases first
      have known := blank c List.mem_cons_self
      simp only [Bool.or_eq_true, beq_iff_eq] at known
      rw [endsWord]
      rcases known with (spacing | rfl) | rfl
      · rw [spacing]
        rfl
      · rfl
      · rfl
  have single {c : Char} (stop : endsWord c = true) (rest : List Char) : Stops (c :: rest) := by
    intro d first
    cases first
    exact stop
  cases isArray with
  | closing _ blank =>
    rw [List.append_assoc]
    exact layout blank (single (by decide) _)
  | comment blank isComment _ _ =>
    cases isComment
    rw [List.append_assoc]
    exact layout blank (single (by decide) _)
  | comma blank _ =>
    rw [List.append_assoc]
    exact layout blank (single (by decide) _)

/-- A value starts with a character that neither ends words nor stands before a value. -/
theorem IsValue.exists_cons {sort : ValueSort} {text : List Char} (isValue : IsValue sort text) :
    ∃ c more, text = c :: more ∧ endsWord c = false ∧ c ≠ '=' := by
  cases isValue with
  | text quote whole =>
    obtain ⟨c, more, rfl⟩ : ∃ c more, text = c :: more := by
      refine List.exists_cons_of_ne_nil ?_
      rintro rfl
      cases whole
    refine ⟨c, more, rfl, ?_⟩
    have isQuote : c = '"' ∨ c = '\'' := by simpa using quote
    rcases isQuote with rfl | rfl <;> decide
  | word isWord =>
    have starts := isWord.starts
    cases text with
    | nil => cases starts
    | cons c more =>
      refine ⟨c, more, rfl, isWord.letters c List.mem_cons_self, ?_⟩
      rintro rfl
      simp [startsWord, List.isPrefixOf, Char.isDigit] at starts
  | truth b => cases b <;> exact ⟨_, _, rfl, by decide⟩
  | array _ => exact ⟨_, _, rfl, by decide⟩

theorem IsArray.ne_nil {filled : Bool} {inner : List Char} (isArray : IsArray filled inner) :
    inner ≠ [] := by
  cases isArray with
  | closing => simp
  | comment _ isComment =>
    cases isComment
    simp
  | comma => simp
  | item _ isValue _ =>
    obtain ⟨c, more, rfl, -⟩ := isValue.exists_cons
    simp

theorem word?_stops {word : List Char} (isWord : IsWord word) {rest : List Char}
    (stops : Stops rest) : word? (word ++ rest) = .ok (word, [], rest) := by
  have cut : (word ++ rest).span (fun c => !endsWord c) = (word, rest) := by
    refine span_front (fun c listed => ?_) fun c first => ?_
    · rw [isWord.letters c listed]
      rfl
    · rw [stops c first]
      rfl
  rw [word?, cut]
  dsimp only
  rw [isWord.noDay, if_neg Bool.false_ne_true, isWord.known, if_pos rfl]

theorem element?_word {word : List Char} (isWord : IsWord word) {rest : List Char}
    (stops : Stops rest) (budget : Nat) :
    element? (budget + 1) (word ++ rest) = .ok (.value .plain word {}, rest) := by
  have read := word?_stops isWord stops
  have starts := isWord.starts
  cases word with
  | nil => cases starts
  | cons c more =>
    have opens : (c.isDigit || c == '+' || c == '-' ||
        ['i', 'n', 'f'].isPrefixOf (c :: (more ++ rest)) ||
          ['n', 'a', 'n'].isPrefixOf (c :: (more ++ rest))) = true := by
      have longer {front : List Char} (starts : front.isPrefixOf (c :: more) = true) :
          front.isPrefixOf (c :: (more ++ rest)) = true := by
        rw [List.isPrefixOf_iff_prefix] at starts ⊢
        exact starts.trans (List.prefix_append (c :: more) rest)
      rw [startsWord, Bool.or_eq_true, Bool.or_eq_true] at starts
      rcases starts with (first | inf) | nan
      · have first : (c.isDigit || c == '+' || c == '-') = true := first
        rw [first]
        rfl
      · rw [longer inf, Bool.or_true]
        rfl
      · rw [longer nan, Bool.or_true]
    have other {d : Char} (noStart : startsWord (d :: more) = false) : c ≠ d := by
      rintro rfl
      rw [starts] at noStart
      cases noStart
    rw [List.cons_append] at read ⊢
    rw [element?, if_neg (by simp [other (d := '"') rfl, other (d := '\'') rfl]),
      if_neg (by simp [other (d := '[') rfl]), if_neg (by simp [other (d := '{') rfl]),
      if_neg (by simp [other (d := 't') rfl, other (d := 'f') rfl]), if_pos opens, read]
    rfl

theorem element?_string {written text : List Char} {block : Bool}
    (quote : written.head? = some '"' ∨ written.head? = some '\'')
    (whole : string? written = some (text, block, [])) {rest : List Char} (stops : Stops rest)
    (budget : Nat) :
    element? (budget + 1) (written ++ rest) = .ok (.value .plain written {}, rest) := by
  have apart : rest.head? ≠ written.head? := by
    intro same
    rcases quote with double | single
    · cases stops '"' (same.trans double)
    · cases stops '\'' (same.trans single)
  have noReturn : written.head? ≠ some '\r' := by
    rcases quote with h | h <;> rw [h] <;> decide
  have read := string?_append whole noReturn (fun _ => apart)
  have taken : (written ++ rest).take ((written ++ rest).length - rest.length) = written := by
    rw [List.length_append, Nat.add_sub_cancel]
    exact List.take_left' rfl
  obtain ⟨c, more, shape⟩ : ∃ c more, written = c :: more := by
    refine List.exists_cons_of_ne_nil ?_
    rintro rfl
    cases whole
  have isQuote : (c == '"' || c == '\'') = true := by
    rw [shape] at quote
    simpa using quote
  have opened : written ++ rest = c :: (more ++ rest) := by
    rw [shape]
    rfl
  rw [List.nil_append] at read
  rw [opened] at read taken ⊢
  rw [element?, if_pos isQuote, read]
  dsimp only
  rw [taken]

theorem element?_truth (b : Bool) (rest : List Char) (budget : Nat) :
    element? (budget + 1) (truthText b ++ rest) =
      .ok (.value (.truth b) (truthText b) {}, rest) := by
  cases b
  · exact element?_boolean false
  · exact element?_boolean true

section

variable {gap : List Char} (blank : IsLayout gap) {budget : Nat} {source inner rest : List Char}

include blank

theorem array?_closed (filled : Bool) (rest : List Char) :
    array? (budget + 2) filled (gap ++ ']' :: rest) = .ok (gap ++ [']'], rest) := by
  have closes : element? (budget + 1) (']' :: rest) = .error (.unexpected (']' :: rest)) := by
    rw [element?, if_neg (by decide), if_neg (by decide), if_neg (by decide), if_neg (by decide),
      if_neg (by simp [List.isPrefixOf])]
  rw [array?, span_cons gap blank (by decide)]
  cases filled with
  | true => rfl
  | false =>
    simp only [bind, Except.bind]
    rw [if_neg Bool.false_ne_true, closes]
    rfl

theorem array?_commented {filled : Bool} {comment : List Char} (isComment : IsComment comment)
    (ends : ∀ c ∈ source.head?, c = '\n' ∨ c = '\r')
    (onward : array? budget filled source = .ok (inner, rest)) :
    array? (budget + 1) filled (gap ++ (comment ++ source)) =
      .ok (gap ++ (comment ++ inner), rest) := by
  have line := isComment.read ends
  cases isComment with
  | @intro text _ =>
    rw [List.cons_append] at line ⊢
    rw [array?, span_cons gap blank (by decide)]
    simp only [bind, Except.bind, line, onward]
    rw [List.append_assoc]
    rfl

theorem array?_separated (filled : source ≠ [])
    (onward : array? budget false source = .ok (inner, rest)) :
    array? (budget + 1) true (gap ++ ',' :: source) = .ok (gap ++ ',' :: inner, rest) := by
  have more : source.isEmpty = false := by
    rwa [List.isEmpty_eq_false_iff]
  rw [array?, span_cons gap blank (by decide)]
  simp only [bind, Except.bind, if_true, more, Bool.false_eq_true, if_false, onward]
  rfl

theorem array?_valued {sort : ValueSort} {text : List Char} (isValue : IsValue sort text)
    (item : element? budget (text ++ source) = .ok (.value sort text {}, source))
    (onward : array? budget true source = .ok (inner, rest)) :
    array? (budget + 1) false (gap ++ (text ++ source)) = .ok (gap ++ (text ++ inner), rest) := by
  obtain ⟨c, more, rfl, solid, -⟩ := isValue.exists_cons
  have noLayout : (isSpacing c || c == '\n' || c == '\r') = false := by
    simp only [endsWord, Bool.or_eq_false_iff] at solid
    simp [solid]
  rw [List.cons_append] at item ⊢
  rw [array?, span_cons gap blank noLayout]
  simp only [bind, Except.bind]
  split
  · rename_i same
    cases same
    cases solid
  · rw [if_neg Bool.false_ne_true, item]
    dsimp only
    rw [onward, Item.valueText, ← List.append_assoc]
    rfl

end

/-- Values are read from their text, and so are arrays behind their opening bracket. -/
theorem element?_array? (budget : Nat) :
    (∀ {sort : ValueSort} {text : List Char}, IsValue sort text → text.length < budget →
      ∀ {rest : List Char}, Stops rest →
        element? budget (text ++ rest) = .ok (.value sort text {}, rest)) ∧
    ∀ {filled : Bool} {inner : List Char}, IsArray filled inner → inner.length < budget →
      ∀ rest : List Char, array? budget filled (inner ++ rest) = .ok (inner, rest) := by
  induction budget with
  | zero => exact ⟨fun _ short => absurd short (Nat.not_lt_zero _),
      fun _ short => absurd short (Nat.not_lt_zero _)⟩
  | succ budget ih =>
    obtain ⟨value, array⟩ := ih
    refine ⟨?_, ?_⟩
    · intro sort text isValue short rest stops
      cases isValue with
      | text quote whole => exact element?_string quote whole stops budget
      | word isWord => exact element?_word isWord stops budget
      | truth b => exact element?_truth b rest budget
      | array isArray =>
        rw [List.cons_append, element?, if_neg (by decide), if_pos (by decide),
          array isArray (Nat.lt_of_succ_lt_succ short)]
        rfl
    · intro filled inner isArray short rest
      cases isArray with
      | @closing _ gap blank =>
        rw [List.length_append, List.length_singleton] at short
        obtain ⟨budget, rfl⟩ : ∃ less, budget = less + 1 :=
          Nat.exists_eq_add_of_le' (by omega)
        rw [List.append_assoc, List.singleton_append]
        exact array?_closed blank filled rest
      | @comment _ gap comment later blank isComment feed isArray =>
        have ends : ∀ c ∈ (later ++ rest).head?, c = '\n' ∨ c = '\r' := by
          intro c first
          rw [List.head?_append] at first
          rcases feed with feed | feed
          · rw [feed] at first
            cases first
            exact .inl rfl
          · rw [feed] at first
            cases first
            exact .inr rfl
        have onward := array isArray (by
          rw [List.length_append, List.length_append] at short
          cases isComment
          rw [List.length_cons] at short
          omega) rest
        rw [List.append_assoc, List.append_assoc]
        exact array?_commented blank isComment ends onward
      | @comma gap later blank isArray =>
        have onward := array isArray (by
          rw [List.length_append, List.length_cons] at short
          omega) rest
        rw [List.append_assoc, List.cons_append]
        exact array?_separated blank (List.append_ne_nil_of_left_ne_nil isArray.ne_nil rest) onward
      | @item gap text later sort blank isValue isArray =>
        rw [List.length_append, List.length_append] at short
        have filled : 0 < later.length := List.length_pos_iff.2 isArray.ne_nil
        have item := value isValue (by omega) (isArray.stops rest)
        have onward := array isArray (by
          obtain ⟨c, more, rfl, -, -⟩ := isValue.exists_cons
          rw [List.length_cons] at short
          omega) rest
        rw [List.append_assoc, List.append_assoc]
        exact array?_valued blank isValue item onward

theorem IsValue.read {sort : ValueSort} {text : List Char} (isValue : IsValue sort text)
    {rest : List Char} (stops : Stops rest) {budget : Nat} (enough : text.length < budget) :
    element? budget (text ++ rest) = .ok (.value sort text {}, rest) :=
  (element?_array? budget).1 isValue enough stops

/-! ### Lines -/

namespace Line

def text : Line → List Char
  | .blank text | .comment text => text
  | .entry path separator value =>
    value.margin.indent ++ pathText path ++ separator ++ value.valueText ++ value.margin.behind
  | .header opening => headerLine opening.margin opening.inArray (pathText opening.path)
  | .brokenHeader _ _ | .refused _ => []

/-- What a line ends with. -/
def ending : Line → List Char
  | .blank text | .comment text => text
  | .entry _ _ value => value.margin.ending
  | .header opening => opening.margin.ending
  | .brokenHeader _ _ | .refused _ => []

/-- A line as documents show it: blank, a comment, one value under one key, or the header of a
table. -/
inductive IsWritten : Line → Prop
  | blank {gap feed : List Char} (blank : IsGap gap) (feeds : feed = [] ∨ feed = ['\n'])
    (filled : gap ++ feed ≠ []) : IsWritten (.blank (gap ++ feed))
  | comment {gap comment feed : List Char} (blank : IsGap gap) (isComment : IsComment comment)
    (feeds : feed = [] ∨ feed = ['\n'] ∨ feed = ['\r', '\n']) :
    IsWritten (.comment (gap ++ comment ++ feed))
  | entry {key : Key} {separator text : List Char} {sort : ValueSort} {margin : Margin}
    (indent : IsSpace margin.indent) (keyed : key.IsWritten)
    (solid : ∀ c ∈ key.written.head?, isSpacing c = false) (space : IsSpace separator)
    (isValue : IsValue sort text) (ends : margin.IsWritten) :
    IsWritten (.entry [key] ('=' :: separator) (.value sort text margin))
  | header {path : List Key} {margin : Margin} (indent : IsGap margin.indent) (filled : path ≠ [])
    (keyed : ∀ key ∈ path, key.IsWritten) (ends : margin.IsWritten) :
    IsWritten (.header { path, inArray := false, margin })

end Line

theorem keys?_written {path : List Key} (filled : path ≠ []) (keyed : ∀ key ∈ path, key.IsWritten)
    {c : Char} (ends : c = ']' ∨ c = '=') (rest : List Char) {budget : Nat}
    (enough : path.length ≤ budget) :
    keys? budget (pathText path ++ c :: rest) = .ok (path, c :: rest) := by
  induction path generalizing budget with
  | nil => exact absurd rfl filled
  | cons key path ih =>
    rw [List.forall_mem_cons] at keyed
    obtain ⟨budget, rfl⟩ := Nat.exists_eq_add_of_le' enough
    cases path with
    | nil =>
      have single : pathText [key] = key.written := by simp [pathText]
      have read := keyed.1.read (c := c) (.inr ends) rest
      rw [single]
      refine keys?_single read ?_ _
      rcases ends with rfl | rfl <;> simp
    | cons next path =>
      have split : pathText (key :: next :: path) ++ c :: rest =
          key.written ++ '.' :: (pathText (next :: path) ++ c :: rest) := by
        simp [pathText, List.intercalate_cons_cons]
      have read := keyed.1.read (c := '.') (.inl rfl) (pathText (next :: path) ++ c :: rest)
      have later : keys? (budget + (next :: path).length) (pathText (next :: path) ++ c :: rest) =
          .ok (next :: path, c :: rest) :=
        ih (List.cons_ne_nil next path) keyed.2 (Nat.le_add_left _ _)
      rw [split, List.length_cons, ← Nat.add_assoc, keys?, read]
      simp only [bind, Except.bind, later]
      rfl

theorem exists_cons_pathText {path : List Key} (filled : path ≠ [])
    (keyed : ∀ key ∈ path, key.IsWritten) : ∃ c more, pathText path = c :: more ∧
      (isSpacing c = true ∨ isBareChar c = true ∨ c = '"' ∨ c = '\'') := by
  obtain ⟨key, path, rfl⟩ := List.exists_cons_of_ne_nil filled
  obtain ⟨c, more, shape, starts⟩ := (keyed key List.mem_cons_self).exists_cons
  cases path with
  | nil => exact ⟨c, more, by simp [pathText, shape], starts⟩
  | cons next path =>
    have rest : pathText (key :: next :: path) = c :: (more ++ '.' :: pathText (next :: path)) := by
      simp [pathText, List.intercalate_cons_cons, shape]
    exact ⟨c, _, rest, starts⟩

theorem length_le_pathText {path : List Key} (keyed : ∀ key ∈ path, key.IsWritten) :
    path.length ≤ (pathText path).length := by
  induction path with
  | nil => exact Nat.zero_le _
  | cons key path ih =>
    rw [List.forall_mem_cons] at keyed
    obtain ⟨c, more, shape, -⟩ := keyed.1.exists_cons
    have later := ih keyed.2
    cases path with
    | nil => simp [pathText, shape]
    | cons next path =>
      have split : pathText (key :: next :: path) =
          key.written ++ '.' :: pathText (next :: path) := by
        simp [pathText, List.intercalate_cons_cons]
      rw [split]
      simp only [List.length_append, List.length_cons] at later ⊢
      omega

theorem line?_blank {gap feed : List Char} (blank : IsGap gap) (feeds : feed = [] ∨ feed = ['\n'])
    {rest : List Char} (closed : Closes (gap ++ feed) ∨ rest = []) :
    line? (gap ++ feed ++ rest) = .ok (.blank (gap ++ feed), rest) := by
  rcases feeds with rfl | rfl
  · have none : rest = [] := closed.resolve_left (by rw [List.append_nil]; exact blank.not_closes)
    rw [none, List.append_nil, List.append_nil, line?]
    have cut : (gap ++ []).span (fun c => isSpacing c || c == '\r') = (gap, []) :=
      span_front blank fun _ first => by cases first
    rw [List.append_nil] at cut
    rw [cut]
    rfl
  · rw [List.append_assoc, line?, span_front blank fun c first => ?_]
    · rfl
    · cases first
      decide

theorem line?_commented {gap comment feed : List Char} (blank : IsGap gap)
    (isComment : IsComment comment) (feeds : feed = [] ∨ feed = ['\n'] ∨ feed = ['\r', '\n'])
    {rest : List Char} (closed : Closes feed ∨ rest = []) :
    line? (gap ++ comment ++ feed ++ rest) = .ok (.comment (gap ++ comment ++ feed), rest) := by
  have ends : Margin.IsWritten { indent := [], gap := [], comment, ending := feed } :=
    .commented (List.forall_mem_nil _) isComment feeds
  have read := ends.read closed
  rw [Margin.behind, List.nil_append] at read
  cases isComment with
  | @intro text plain =>
    rw [List.append_assoc] at read
    rw [List.append_assoc, List.append_assoc, line?, List.cons_append,
      span_front blank fun c first => ?_]
    · rw [List.cons_append] at read
      simp only [bind, Except.bind, read]
      rfl
    · cases first
      decide

theorem line?_header {path : List Key} {margin : Margin} (indent : IsGap margin.indent)
    (filled : path ≠ []) (keyed : ∀ key ∈ path, key.IsWritten) (ends : margin.IsWritten)
    {rest : List Char} (closed : Closes margin.ending ∨ rest = []) :
    line? (headerLine margin false (pathText path) ++ rest) =
      .ok (.header { path, inArray := false, margin }, rest) := by
  have whole : headerLine margin false (pathText path) ++ rest =
      margin.indent ++ '[' :: (pathText path ++ ']' :: (margin.behind ++ rest)) := by
    simp [headerLine, Margin.behind]
  have keys : keys? ((pathText path ++ ']' :: (margin.behind ++ rest)).length + 1)
      (pathText path ++ ']' :: (margin.behind ++ rest)) =
        .ok (path, ']' :: (margin.behind ++ rest)) := by
    have short := length_le_pathText keyed
    refine keys?_written filled keyed (.inl rfl) (margin.behind ++ rest) ?_
    rw [List.length_append]
    omega
  have opens : opening? margin.indent (pathText path ++ ']' :: (margin.behind ++ rest)) =
      .ok (.header { path, inArray := false, margin }, rest) := by
    unfold opening?
    split
    rename_i inArray after chosen
    have single : (inArray, after) = (false, pathText path ++ ']' :: (margin.behind ++ rest)) := by
      rw [← chosen]
      split
      · rename_i doubled
        obtain ⟨c, more, shape, starts⟩ := exists_cons_pathText filled keyed
        rw [shape] at doubled
        exact absurd (List.cons.inj doubled).1
          (Key.IsWritten.ne_of_exists_cons starts (by decide) (by decide) (by decide))
      · rfl
    cases single
    simp only [bind, Except.bind, keys]
    rw [if_neg Bool.false_ne_true, ends.read closed]
    rfl
  rw [whole, line?, span_front indent fun c first => ?_]
  · exact opens
  · cases first
    decide

theorem IsSpace.isGap {text : List Char} (space : IsSpace text) : IsGap text := by
  intro c listed
  rw [space c listed]
  rfl

/-- Nothing that could be part of a value follows behind it. -/
theorem Margin.IsWritten.stops {margin : Margin} (written : margin.IsWritten) {rest : List Char}
    (closed : Closes margin.ending ∨ rest = []) : Stops (margin.behind ++ rest) := by
  have gapped {gap more : List Char} (blank : IsGap gap) (stops : Stops more) :
      Stops (gap ++ more) := by
    cases gap with
    | nil => exact stops
    | cons c gap =>
      intro d first
      cases first
      have known := blank c List.mem_cons_self
      rw [Bool.or_eq_true, beq_iff_eq] at known
      rcases known with spacing | rfl
      · rw [endsWord, spacing]
        rfl
      · decide
  have single {c : Char} (stop : endsWord c = true) (more : List Char) : Stops (c :: more) := by
    intro d first
    cases first
    exact stop
  cases written with
  | @plain indent gap feed blank feeds =>
    have whole : Margin.behind { indent, ending := gap ++ feed } ++ rest =
        gap ++ (feed ++ rest) := by
      simp [Margin.behind]
    rw [whole]
    refine gapped blank ?_
    rcases feeds with rfl | rfl
    · rw [closed.resolve_left (by rw [List.append_nil]; exact blank.not_closes)]
      exact fun _ first => by cases first
    · exact single (by decide) rest
  | @commented indent gap comment feed blank isComment feeds =>
    have whole : Margin.behind { indent, gap, comment, ending := feed } ++ rest =
        gap ++ (comment ++ (feed ++ rest)) := by
      simp [Margin.behind]
    rw [whole]
    refine gapped blank ?_
    cases isComment
    exact single (by decide) _

theorem separator?_written {separator : List Char} (space : IsSpace separator) {rest : List Char}
    (stop : ∀ c ∈ rest.head?, c ≠ '=' ∧ isSpacing c = false) :
    separator? ('=' :: separator ++ rest) = .ok ('=' :: separator, rest) := by
  have cut : ('=' :: separator ++ rest).span (fun c => c == '=' || isSpacing c) =
      ('=' :: separator, rest) := by
    refine span_front (fun c listed => ?_) fun c first => ?_
    · rcases List.mem_cons.1 listed with rfl | inside
      · rfl
      · rw [space c inside, Bool.or_true]
    · obtain ⟨noEquals, noSpacing⟩ := stop c first
      rw [noSpacing, beq_eq_false_iff_ne.2 noEquals]
      rfl
  have once : ('=' :: separator).count '=' = 1 := by
    have none : separator.count '=' = 0 := by
      rw [List.count_eq_zero]
      intro listed
      cases space '=' listed
    rw [List.count_cons_self, none]
  rw [separator?, cut]
  dsimp only
  rw [once]
  rfl

section

variable {key : Key} {separator text : List Char} {sort : ValueSort} {margin : Margin}
  (indent : IsSpace margin.indent) (keyed : key.IsWritten)
  (solid : ∀ c ∈ key.written.head?, isSpacing c = false) (space : IsSpace separator)
  (isValue : IsValue sort text) (ends : margin.IsWritten) {rest : List Char}
  (closed : Closes margin.ending ∨ rest = [])

include indent keyed solid space isValue ends closed

/-- A value is read from its line, with what stands around it. -/
theorem entry?_written : entry? (margin.indent ++ (key.written ++
      '=' :: (separator ++ (text ++ (margin.behind ++ rest))))) =
    .ok (.entry [key] ('=' :: separator) (.value sort text margin), rest) := by
  obtain ⟨first, later, opened, valueSolid, noEquals⟩ := isValue.exists_cons
  have cut : (margin.indent ++ (key.written ++
      '=' :: (separator ++ (text ++ (margin.behind ++ rest))))).span isSpacing =
        (margin.indent, key.written ++
          '=' :: (separator ++ (text ++ (margin.behind ++ rest)))) := by
    obtain ⟨c, more, shape, -⟩ := keyed.exists_cons
    rw [shape] at solid ⊢
    exact span_front indent solid
  have keys := keys?_single (keyed.read (.inr (.inr rfl))
    (separator ++ (text ++ (margin.behind ++ rest)))) (by simp)
    (key.written ++ '=' :: (separator ++ (text ++ (margin.behind ++ rest)))).length
  have sep : separator? ('=' :: separator ++ (text ++ (margin.behind ++ rest))) =
      .ok ('=' :: separator, text ++ (margin.behind ++ rest)) := by
    refine separator?_written space fun d head => ?_
    rw [opened] at head
    cases head
    refine ⟨noEquals, ?_⟩
    rw [endsWord] at valueSolid
    simp only [Bool.or_eq_false_iff] at valueSolid
    exact valueSolid.1.1.1.1.1.1
  have value : element? ((text ++ (margin.behind ++ rest)).length + 1)
      (text ++ (margin.behind ++ rest)) = .ok (.value sort text {}, margin.behind ++ rest) := by
    refine isValue.read (ends.stops closed) ?_
    rw [List.length_append]
    omega
  rw [List.cons_append] at sep
  rw [ entry?, cut]
  simp only [bind, Except.bind, keys, sep, value, ends.read closed]
  rfl

theorem line?_entry :
    line? ((Line.entry [key] ('=' :: separator) (.value sort text margin)).text ++ rest) =
      .ok (.entry [key] ('=' :: separator) (.value sort text margin), rest) := by
  have entry := entry?_written indent keyed solid space isValue ends closed
  obtain ⟨c, more, shape, starts⟩ := keyed.exists_cons
  have noSpacing : isSpacing c = false := solid c (by rw [shape]; rfl)
  have other {d : Char} (noBare : isBareChar d = false) (noQuote : d ≠ '"' ∧ d ≠ '\'')
      (noSpacing : isSpacing d = false) : c ≠ d :=
    Key.IsWritten.ne_of_exists_cons starts noSpacing noBare noQuote
  have whole : (Line.entry [key] ('=' :: separator) (.value sort text margin)).text ++ rest =
      margin.indent ++
        (key.written ++ '=' :: (separator ++ (text ++ (margin.behind ++ rest)))) := by
    simp [Line.text, pathText, Item.margin, Item.valueText]
  rw [whole, line?, span_front indent.isGap fun d head => ?_]
  · rw [shape] at entry ⊢
    dsimp only
    split
    · rename_i same
      cases same
    · rename_i same
      exact absurd (List.cons.inj same).1 (other (by decide) (by decide) (by decide))
    · rename_i same
      exact absurd (List.cons.inj same).1 (other (by decide) (by decide) (by decide))
    · rename_i same
      exact absurd (List.cons.inj same).1 (other (by decide) (by decide) (by decide))
    · exact entry
  · rw [shape] at head
    cases head
    have noReturn : c ≠ '\r' := other (by decide) (by decide) (by decide)
    rw [noSpacing, beq_eq_false_iff_ne.2 noReturn]
    rfl

end

namespace Line.IsWritten

theorem feed : IsWritten (.blank ['\n']) :=
  @blank [] ['\n'] (List.forall_mem_nil _) (.inr rfl) (List.cons_ne_nil _ _)

/-- A line is read from its text. -/
theorem read {line : Line} (written : line.IsWritten) {rest : List Char}
    (closed : Closes line.ending ∨ rest = []) : line? (line.text ++ rest) = .ok (line, rest) := by
  cases written with
  | blank blank feeds _ => exact line?_blank blank feeds closed
  | @comment gap comment feed blank isComment feeds =>
    refine line?_commented blank isComment feeds (closed.imp_left fun closes => ?_)
    rcases feeds with rfl | rfl | rfl
    · rw [Line.ending, List.append_nil] at closes
      exact absurd closes (isComment.not_closes gap)
    · rfl
    · rfl
  | entry indent keyed solid space isValue ends =>
    exact line?_entry indent keyed solid space isValue ends closed
  | header indent filled keyed ends => exact line?_header indent filled keyed ends closed

theorem text_ne_nil {line : Line} (written : line.IsWritten) : line.text ≠ [] := by
  cases written with
  | blank _ _ filled => exact filled
  | comment _ isComment _ =>
    cases isComment
    simp [Line.text]
  | entry => simp [Line.text]
  | header => simp [Line.text, headerLine]

end Line.IsWritten

/-- A document of lines that end with line feeds, the last one perhaps not, is read as they are. -/
theorem lines_written {ls : List Line} (written : ∀ line ∈ ls, line.IsWritten)
    (closed : ∀ line ∈ ls.dropLast, Closes line.ending) : lines (ls.flatMap Line.text) = ls := by
  induction ls with
  | nil =>
    rw [List.flatMap_nil, lines]
    rfl
  | cons line ls ih =>
    rw [List.forall_mem_cons] at written
    have last : Closes line.ending ∨ ls.flatMap Line.text = [] := by
      cases ls with
      | nil => exact .inr rfl
      | cons next ls => exact .inl (closed line List.mem_cons_self)
    have later : ∀ line ∈ ls.dropLast, Closes line.ending := by
      intro other listed
      cases ls with
      | nil => cases listed
      | cons next ls => exact closed other (List.mem_cons_of_mem _ listed)
    have filled := List.length_pos_iff.2 written.1.text_ne_nil
    rw [List.flatMap_cons, lines_cons (written.1.read last) (by rw [List.length_append]; omega),
      ih written.2 later]

end TypstMarkup.Toml
