import TypstMarkup.Proofs.Markup.Emission

/-!
Raw elements that can be read back. Nothing is escaped between the fences: the language, the blank
behind it, the text and the fences stand side by side. As long as no run of backticks in the text is
as long as the fence, the fence that closes is the first one, and what stands before it gives the
language, the form and the text.
-/
namespace TypstMarkup.Markup
open Text

/-! ### Fences -/

def fence (count : Nat) : List Char :=
  List.replicate count '\x60'

/-- Behind a text, a fence is the first run of that many backticks, and nothing follows it. -/
def ClosesFirst (count : Nat) (s : List Char) : Prop :=
  ∀ before after, s ++ fence count = before ++ (fence count ++ after) → before = s ∧ after = []

section

variable {count : Nat} {s : List Char}

theorem ClosesFirst.cons {c : Char} (other : c ≠ '\x60') (some : 0 < count)
    (closes : ClosesFirst count s) : ClosesFirst count (c :: s) := by
  intro before after same
  cases before with
  | nil =>
    obtain ⟨count, rfl⟩ := Nat.exists_eq_add_of_le' some
    exact absurd (List.cons.inj same).1 other
  | cons d before =>
    rw [List.cons_append, List.cons_append, List.cons.injEq] at same
    obtain ⟨rfl, rfl⟩ := closes before after same.2
    exact ⟨by rw [same.1], rfl⟩

theorem ClosesFirst.append {t : List Char} (plain : '\x60' ∉ t) (some : 0 < count)
    (closes : ClosesFirst count s) : ClosesFirst count (t ++ s) := by
  induction t with
  | nil => exact closes
  | cons c t ih =>
    rw [List.mem_cons, not_or] at plain
    exact (ih plain.2).cons (Ne.symm plain.1) some

/-- A run that began within the text would either be part of it or start with its last
characters. -/
theorem closesFirst_of_absent (absent : ¬fence count <:+: s) (last : s.getLast? ≠ some '\x60') :
    ClosesFirst count s := by
  intro before after same
  rcases List.append_eq_append_iff.1 same with ⟨more, rfl, behind⟩ | ⟨rest, rfl, behind⟩
  · have short := congrArg List.length behind
    simp only [List.length_append] at short
    have none : more = [] := List.eq_nil_of_length_eq_zero (by omega)
    have nothing : after = [] := List.eq_nil_of_length_eq_zero (by omega)
    exact ⟨by rw [none, List.append_nil], nothing⟩
  · rcases List.append_eq_append_iff.1 behind with ⟨inner, rfl, -⟩ | ⟨inner, run, ends⟩
    · exact absurd ⟨before, inner, List.append_assoc _ _ _⟩ absent
    · rcases List.eq_nil_or_concat rest with rfl | ⟨rest, c, rfl⟩
      · rw [List.nil_append] at run
        rw [run, List.self_eq_append_right] at ends
        exact ⟨(List.append_nil before).symm, ends⟩
      · rw [List.concat_eq_append] at run last
        have tick : c ∈ fence count := by
          rw [run]
          simp
        rw [List.eq_of_mem_replicate tick, ← List.append_assoc, List.getLast?_concat] at last
        exact absurd rfl last

theorem absent_concat {c : Char} (other : c ≠ '\x60') (some : 0 < count)
    (absent : ¬fence count <:+: s) : ¬fence count <:+: s ++ [c] := by
  intro present
  rcases List.infix_concat_iff.1 present with ends | within
  · have filled : fence count ≠ [] := by
      rw [fence, Ne, List.replicate_eq_nil_iff]
      exact Nat.pos_iff_ne_zero.1 some
    have last := ends.getLast filled
    rw [List.getLast_concat] at last
    exact other (List.eq_of_mem_replicate (last ▸ List.getLast_mem filled))
  · exact absent within

end

/-! ### Reading -/

/-- What stands before the first run of so many backticks, and what starts with that run. -/
def splitAtRun (count : Nat) : List Char → List Char × List Char
  | [] => ([], [])
  | c :: rest =>
    if (fence count).isPrefixOf (c :: rest) then ([], c :: rest)
    else (c :: (splitAtRun count rest).1, (splitAtRun count rest).2)

theorem splitAtRun_fence (count : Nat) : splitAtRun count (fence count) = ([], fence count) := by
  cases count with
  | zero => rfl
  | succ count =>
    have whole : (fence (count + 1)).isPrefixOf (fence (count + 1)) = true :=
      List.isPrefixOf_iff_prefix.2 (List.prefix_refl _)
    have run : fence (count + 1) = '\x60' :: fence count := rfl
    rw [run] at whole ⊢
    rw [splitAtRun, run, if_pos whole]

theorem splitAtRun_append {count : Nat} {s : List Char} (closes : ClosesFirst count s) :
    splitAtRun count (s ++ fence count) = (s, fence count) := by
  induction s with
  | nil => exact splitAtRun_fence count
  | cons c s ih =>
    have first : (fence count).isPrefixOf (c :: (s ++ fence count)) = false := by
      rw [Bool.eq_false_iff, Ne, List.isPrefixOf_iff_prefix]
      rintro ⟨after, same⟩
      exact absurd (closes [] after same.symm).1 (List.cons_ne_nil c s).symm
    have later : ClosesFirst count s := by
      intro before after same
      obtain ⟨equal, nothing⟩ := closes (c :: before) after (congrArg (c :: ·) same)
      exact ⟨(List.cons.inj equal).2, nothing⟩
    rw [List.cons_append, splitAtRun, first, if_neg Bool.false_ne_true, ih later]

/-- What a raw element is made of. -/
structure RawParts where
  count : Nat
  block : Bool
  language : List Char
  text : List Char

/-- The parts of a raw element, found in what is written for it. -/
def readRaw? (written : List Char) : Option RawParts :=
  let opening := written.takeWhile (· == '`')
  let (interior, closing) := splitAtRun opening.length (written.drop opening.length)
  if closing ≠ opening then none
  else
    let language := interior.takeWhile fun c => !isBlank c
    match interior.drop language.length with
    | ' ' :: text => some ⟨opening.length, false, language, text⟩
    | '\n' :: text => some ⟨opening.length, true, language, text.dropLast⟩
    | _ => none

/-! ### Elements -/

/-- A raw element that can be told from its text: its language holds neither backticks nor blanks,
and its text no run as long as the fence. Where the closing fence stands right behind the text, the
text does not end in a backtick. -/
structure RawElement where
  count : Nat
  block : Bool
  language : String
  text : String
  three_le : 3 ≤ count
  language_plain : ∀ c ∈ language.toList, c ≠ '\x60' ∧ isBlank c = false
  text_short : ¬fence count <:+: text.toList
  text_ends : block = false → text.toList.getLast? ≠ some '\x60'

namespace RawElement

variable (e : RawElement)

def value : Value := .raw e.text e.language

def parts : RawParts := ⟨e.count, e.block, e.language.toList, e.text.toList⟩

/-- The settings that a raw element is written with. -/
structure SetBy (c : Context) (mode : Mode) : Prop where
  ticks : backticks c = .ok e.count
  form : isBlock c = .ok e.block
  mode : c.mode = .ok mode

/-- What stands between the fences. -/
def interior : List Char :=
  e.language.toList ++ (if e.block then '\n' else ' ') ::
    (e.text.toList ++ if e.block then ['\n'] else [])

theorem eq_of_parts {e e' : RawElement} (same : e.parts = e'.parts) : e = e' := by
  obtain ⟨count, block, language, text⟩ := e
  obtain ⟨count', block', language', text'⟩ := e'
  simpa [parts, String.toList_inj] using same

theorem closesFirst_body :
    ClosesFirst e.count (e.text.toList ++ if e.block then ['\n'] else []) := by
  cases form : e.block with
  | false =>
    rw [if_neg Bool.false_ne_true, List.append_nil]
    exact closesFirst_of_absent e.text_short (e.text_ends form)
  | true =>
    have some : 0 < e.count := Nat.lt_of_lt_of_le (by decide) e.three_le
    rw [if_pos rfl]
    exact closesFirst_of_absent (absent_concat (by decide) some e.text_short)
      (by rw [List.getLast?_concat]; decide)

theorem closesFirst_interior : ClosesFirst e.count e.interior := by
  have some : 0 < e.count := Nat.lt_of_lt_of_le (by decide) e.three_le
  have blank : (if e.block then '\n' else ' ') ≠ '\x60' := by
    split <;> decide
  refine ((closesFirst_body e).cons blank some).append ?_ some
  exact fun tick => (e.language_plain _ tick).1 rfl

/-- The opening run of backticks ends with the fence. -/
theorem takeWhile_written :
    (fence e.count ++ (e.interior ++ fence e.count)).takeWhile (· == '\x60') = fence e.count := by
  have ends : (e.interior ++ fence e.count).takeWhile (· == '\x60') = [] := by
    rw [interior]
    cases lang : e.language.toList with
    | nil => cases e.block <;> rfl
    | cons c rest =>
      have other := (e.language_plain c (by rw [lang]; exact List.mem_cons_self)).1
      rw [List.cons_append, List.cons_append, List.takeWhile_cons_of_neg (by simpa using other)]
  rw [List.takeWhile_append_of_pos, ends, List.append_nil]
  intro c tick
  rw [List.eq_of_mem_replicate tick]
  rfl

theorem takeWhile_interior :
    e.interior.takeWhile (fun c => !isBlank c) = e.language.toList := by
  rw [interior, List.takeWhile_append_of_pos]
  · cases e.block <;> exact List.append_nil _
  · intro c listed
    rw [(e.language_plain c listed).2]
    rfl

theorem readRaw?_written :
    readRaw? (fence e.count ++ (e.interior ++ fence e.count)) = some e.parts := by
  have length : (fence e.count).length = e.count := List.length_replicate
  rw [readRaw?, takeWhile_written, List.drop_left, length, splitAtRun_append e.closesFirst_interior]
  simp only [ne_eq, not_true_eq_false, if_false, takeWhile_interior]
  rw [interior, List.drop_left, parts]
  cases e.block <;> simp

end RawElement

/-! ### Writing -/

/-- What enters code from math; elsewhere a raw element stands by itself. -/
def rawOpening (mode : Mode) : List Char :=
  if mode = .math then ['#'] else []

theorem repeated_tick {count : Nat} (fits : count < memoryLimit) :
    repeated ['\x60'] count = .ok (fence count) := by
  have word : fitsWord count = true := by
    rw [fitsWord_iff]
    simp only [memoryLimit, wordLimit] at fits ⊢
    omega
  have short : ¬((wordLimit : Int) ≤ (1 : Nat) * count) := by
    simp only [memoryLimit, wordLimit] at fits ⊢
    omega
  have room : ¬memoryLimit ≤ 1 * (count : Int).toNat := by
    simp only [memoryLimit] at fits ⊢
    omega
  rw [repeated, word, Bool.not_true, if_neg Bool.false_ne_true, List.isEmpty_cons,
    if_neg Bool.false_ne_true, List.length_singleton, if_neg short, if_neg room]
  simp [fence]

theorem fits_of_repeated_tick {count : Nat} {ticks : List Char}
    (made : repeated ['\x60'] count = .ok ticks) : count < memoryLimit := by
  unfold repeated at made
  split at made
  · cases made
  split at made
  · rename_i empty
    cases empty
  split at made
  · cases made
  split at made
  · cases made
  · rename_i room
    simpa using room

section

variable {e : RawElement} {c : Context} {mode : Mode} (set : e.SetBy c mode)

include set

theorem writeRaw_eq : writeRaw e.value c = .text (rawOpening mode) ++
    .attempt (repeated ['\x60'] e.count) fun fence =>
      .enclose (fence ++ e.language.toList ++ [if e.block then '\n' else ' '])
        (.text e.text.toList) (if e.block then '\n' :: fence else fence) := by
  rw [writeRaw, set.ticks, set.form, set.mode]
  rfl

theorem writeRaw_eq_text_iff {out : List Char} :
    writeRaw e.value c = .text out ↔ e.count < memoryLimit ∧
      out = rawOpening mode ++ (fence e.count ++ (e.interior ++ fence e.count)) := by
  rw [writeRaw_eq set]
  by_cases fits : e.count < memoryLimit
  · have whole : Emission.text (rawOpening mode) ++ Emission.enclose
        (fence e.count ++ e.language.toList ++ [if e.block then '\n' else ' '])
        (.text e.text.toList) (if e.block then '\n' :: fence e.count else fence e.count) =
          .text (rawOpening mode ++ (fence e.count ++ (e.interior ++ fence e.count))) := by
      rw [RawElement.interior, Emission.enclose, Emission.text_append_text,
        Emission.text_append_text, Emission.text_append_text]
      cases e.block <;> simp
    rw [repeated_tick fits, Emission.attempt, whole, Emission.text_inj, eq_comm,
      and_iff_right fits]
  · refine iff_of_false (fun written => fits ?_) (fun both => fits both.1)
    obtain ⟨_, rest, -⟩ := Emission.text_append_eq_text_iff.1 written
    obtain ⟨_, made, -⟩ := Emission.attempt_eq_text_iff.1 rest
    exact fits_of_repeated_tick made

/-- A raw element is found in what is written for it: the opening run is its fence, the first run of
that length behind it is the closing fence and ends the text, and what stands between gives all its
parts, so no other element is written as the same text in the mode. It is written if the fence fits
in memory. -/
theorem raw_element_reads_back :
    ((∃ out, writeRaw e.value c = .text out) ↔ e.count < memoryLimit) ∧
      ∀ out, writeRaw e.value c = .text out →
        (∃ interior, out = rawOpening mode ++ (fence e.count ++ (interior ++ fence e.count)) ∧
          (fence e.count ++ (interior ++ fence e.count)).takeWhile (· == '\x60') =
            fence e.count ∧
          ClosesFirst e.count interior ∧
          readRaw? (fence e.count ++ (interior ++ fence e.count)) = some e.parts) ∧
        ∀ (other : RawElement) (d : Context), other.SetBy d mode →
          writeRaw other.value d = .text out → other = e := by
  refine ⟨?_, fun out written => ⟨?_, fun other d otherSet otherWritten => ?_⟩⟩
  · simp [writeRaw_eq_text_iff set]
  · obtain ⟨-, rfl⟩ := (writeRaw_eq_text_iff set).1 written
    exact ⟨e.interior, rfl, e.takeWhile_written, e.closesFirst_interior, e.readRaw?_written⟩
  · obtain ⟨-, rfl⟩ := (writeRaw_eq_text_iff set).1 written
    obtain ⟨-, same⟩ := (writeRaw_eq_text_iff otherSet).1 otherWritten
    have parts := other.readRaw?_written
    rw [← List.append_cancel_left same, e.readRaw?_written] at parts
    exact (RawElement.eq_of_parts (Option.some.inj parts)).symm

end

/-- Runs of three backticks at the start and at the end of a line, between fences of four. -/
def quotation : RawElement where
  count := 4
  block := true
  language := "md"
  text := "```py\nx\n```"
  three_le := by decide
  language_plain := by
    have letters : "md".toList = ['m', 'd'] := rfl
    rw [letters, List.forall_mem_cons, List.forall_mem_singleton]
    decide +kernel
  text_short := by
    have line : "```py\nx\n```".toList =
        fence 3 ++ ['p', 'y', '\n', 'x', '\n'] ++ fence 3 := rfl
    rw [line]
    decide
  text_ends := nofun

def quotationSettings : Context :=
  OrderedMap.ofList [("mode", .mode .math), ("backticks", .int 4), ("block", .bool true)]

theorem raw_element_reads_back_quotation :
    quotation.SetBy quotationSettings .math ∧
      ((∃ out, writeRaw quotation.value quotationSettings = .text out) ↔
        quotation.count < memoryLimit) ∧
      ∀ out, writeRaw quotation.value quotationSettings = .text out →
        (∃ interior, out = rawOpening .math ++
            (fence quotation.count ++ (interior ++ fence quotation.count)) ∧
          (fence quotation.count ++ (interior ++ fence quotation.count)).takeWhile
            (· == '\x60') = fence quotation.count ∧
          ClosesFirst quotation.count interior ∧
          readRaw? (fence quotation.count ++ (interior ++ fence quotation.count)) =
            some quotation.parts) ∧
        ∀ (other : RawElement) (d : Context), other.SetBy d .math →
          writeRaw other.value d = .text out → other = quotation := by
  have set : quotation.SetBy quotationSettings .math := ⟨rfl, rfl, rfl⟩
  exact ⟨set, raw_element_reads_back set⟩

end TypstMarkup.Markup
