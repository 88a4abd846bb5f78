import TypstMarkup.Proofs.Template.Divided
import TypstMarkup.Proofs.Text.Run

/-!
Templates written from their parts. A run of backslashes is doubled where it would otherwise be read
as the start of a splice: before an opening bracket of literal text, and before a splice. Writing
and scanning are inverse to each other: what is scanned is written back as the source it came from,
and parts that scanning can produce at all are read back as they were written.
-/
namespace TypstMarkup.Template
open Text (trailingRun)

/-- What a segment stands for: literal text, or a splice as it is written. -/
inductive Part where
  | literal (text : List Char)
  | splice (contents : List Char)
deriving DecidableEq

def Segment.part : Segment → Part
  | .literal text => .literal text
  | .splice s => .splice s.contents

def Part.isSplice : Part → Bool
  | .literal _ => false
  | .splice _ => true

/-- Whether a run of backslashes in front of a text would be read as part of a marker, if it were
not doubled: a bracket follows, or the text ends and a splice follows. -/
def endsRun (beforeSplice : Bool) : List Char → Bool
  | [] => beforeSplice
  | c :: rest => if c = '\\' then endsRun beforeSplice rest else c = '('

/-- Writes literal text: each backslash of a run that must be doubled is doubled. -/
def encodeLiteral (beforeSplice : Bool) : List Char → List Char
  | [] => []
  | c :: rest =>
    if c = '\\' ∧ endsRun beforeSplice rest = true then
      '\\' :: '\\' :: encodeLiteral beforeSplice rest
    else c :: encodeLiteral beforeSplice rest

/-- Whether the first part is a splice. -/
def startsWithSplice (parts : List Part) : Bool :=
  parts.head?.any Part.isSplice

def encode : List Part → List Char
  | [] => []
  | .literal text :: rest => encodeLiteral (startsWithSplice rest) text ++ encode rest
  | .splice contents :: rest => '\\' :: '(' :: (contents ++ ')' :: encode rest)

/-- The positions of the markers in a written template that starts at a position. -/
def markers : Nat → List Part → List Nat
  | _, [] => []
  | position, .literal text :: rest =>
    markers (position + (encodeLiteral (startsWithSplice rest) text).length) rest
  | position, .splice contents :: rest =>
    position :: markers (position + contents.length + 3) rest

/-- No literal is empty, and after a literal the parts end or a splice follows. -/
def Tidy : List Part → Prop
  | [] => True
  | .literal text :: rest =>
    text ≠ [] ∧ (rest = [] ∨ startsWithSplice rest = true) ∧ Tidy rest
  | .splice _ :: rest => Tidy rest

/-- Contents of a splice that are accepted in a template of their own: the bracket behind them
closes the splice, and they can be read. -/
def AcceptedAlone (contents : List Char) : Prop :=
  closing (contents ++ [')']) = .ok (contents, []) ∧
    ∃ s, Splice.ofContents contents 0 = .ok s

/-- The position behind the closing bracket. -/
def Splice.stop (s : Splice) : Nat := s.position + s.contents.length + 3

/-! ### Runs in written text -/

theorem endsRun_backslashes (beforeSplice : Bool) (count : Nat) (text : List Char) :
    endsRun beforeSplice (backslashes count ++ text) = endsRun beforeSplice text := by
  induction count with
  | zero => rfl
  | succ count ih => exact ih

theorem encodeLiteral_backslashes (beforeSplice : Bool) (count : Nat) (text : List Char) :
    encodeLiteral beforeSplice (backslashes count ++ text) =
      backslashes (if endsRun beforeSplice text then 2 * count else count) ++
        encodeLiteral beforeSplice text := by
  induction count with
  | zero => simp [backslashes]
  | succ count ih =>
    have unfolded : backslashes (count + 1) ++ text = '\\' :: (backslashes count ++ text) := rfl
    rw [unfolded, encodeLiteral, endsRun_backslashes, ih]
    by_cases doubled : endsRun beforeSplice text = true
    · simp [doubled, backslashes, List.replicate_succ, Nat.mul_add]
    · simp [doubled, backslashes, List.replicate_succ]

theorem encodeLiteral_cons {c : Char} (noSlash : c ≠ '\\') (beforeSplice : Bool)
    (text : List Char) :
    encodeLiteral beforeSplice (c :: text) = c :: encodeLiteral beforeSplice text := by
  simp [encodeLiteral, noSlash]

/-- Whether a run of backslashes in front of some parts must be doubled. -/
def endsRunBefore : List Part → Bool
  | [] => false
  | .literal text :: rest => endsRun (startsWithSplice rest) text
  | .splice _ :: _ => true

/-! ### Literal text in front of segments -/

/-- Text in front of segments is written as part of the literal that they begin with. -/
theorem encode_prependText_literal (text after : List Char) (rest : List Segment) :
    encode ((prependText text (.literal after :: rest)).map Segment.part) =
      encodeLiteral (startsWithSplice (rest.map Segment.part)) (text ++ after) ++
        encode (rest.map Segment.part) := by
  cases text <;> rfl

theorem encode_prependText_splice (text : List Char) (s : Splice) (rest : List Segment) :
    encode ((prependText text (.splice s :: rest)).map Segment.part) =
      encodeLiteral true text ++ encode ((Segment.splice s :: rest).map Segment.part) := by
  cases text <;> rfl

theorem encode_prependText_nil (text : List Char) :
    encode ((prependText text []).map Segment.part) = encodeLiteral false text := by
  cases text with
  | nil => rfl
  | cons c text => exact List.append_nil _

theorem encode_prepend_backslashes (count : Nat) (segments : List Segment) :
    encode ((prependText (backslashes count) segments).map Segment.part) =
      backslashes (if endsRunBefore (segments.map Segment.part) then 2 * count else count) ++
        encode (segments.map Segment.part) := by
  have run (beforeSplice : Bool) : encodeLiteral beforeSplice (backslashes count) =
      backslashes (if beforeSplice then 2 * count else count) := by
    have whole := encodeLiteral_backslashes beforeSplice count []
    rw [show encodeLiteral beforeSplice [] = [] from rfl, List.append_nil, List.append_nil] at whole
    exact whole
  match segments with
  | [] =>
    rw [encode_prependText_nil, run]
    exact (List.append_nil _).symm
  | .literal after :: rest =>
    rw [encode_prependText_literal, encodeLiteral_backslashes, List.append_assoc]
    rfl
  | .splice s :: rest =>
    rw [encode_prependText_splice, run]
    rfl

theorem encode_prepend_char {c : Char} (noSlash : c ≠ '\\') (segments : List Segment) :
    encode ((prependText [c] segments).map Segment.part) =
      c :: encode (segments.map Segment.part) := by
  match segments with
  | [] => rw [encode_prependText_nil, encodeLiteral_cons noSlash]; rfl
  | .literal after :: rest =>
    rw [encode_prependText_literal, List.singleton_append, encodeLiteral_cons noSlash]; rfl
  | .splice s :: rest => rw [encode_prependText_splice, encodeLiteral_cons noSlash]; rfl

theorem endsRunBefore_prepend_char {c : Char} (noSlash : c ≠ '\\') (segments : List Segment) :
    endsRunBefore ((prependText [c] segments).map Segment.part) = decide (c = '(') := by
  match segments with
  | [] | .literal _ :: _ | .splice _ :: _ =>
    simp [prependText, Segment.part, endsRunBefore, endsRun, noSlash]

/-- Backslashes in front of one more character are doubled if it is an opening bracket. -/
theorem encode_prepend_run {c : Char} (noSlash : c ≠ '\\') (count : Nat)
    (segments : List Segment) :
    encode ((prependText (backslashes count ++ [c]) segments).map Segment.part) =
      backslashes (if c = '(' then 2 * count else count) ++
        c :: encode (segments.map Segment.part) := by
  rw [prependText_append, encode_prepend_backslashes, endsRunBefore_prepend_char noSlash,
    encode_prepend_char noSlash]
  simp

theorem backslashes_append_cons (count : Nat) (rest : List Char) :
    backslashes count ++ '\\' :: rest = backslashes (count + 1) ++ rest := by
  rw [backslashes, backslashes, List.replicate_succ', List.append_assoc]
  rfl

/-! ### What a division keeps -/

/-- The segments of a division are written as the source they were read from. -/
theorem encode_of_divided {position run : Nat} {source : List Char} {segments : List Segment}
    (divided : Divided position run source segments) :
    encode (segments.map Segment.part) = backslashes run ++ source := by
  induction divided with
  | done position run =>
    rw [encode_prepend_backslashes]
    rfl
  | backslash tail ih => rw [ih, backslashes_append_cons]
  | @plain position run c rest segments noSlash noMarker tail ih =>
    rw [encode_prepend_run noSlash, ih]
    by_cases bracket : c = '('
    · rw [if_pos bracket, noMarker bracket]
      rfl
    · rw [if_neg bracket]
      rfl
  | marker tail ih =>
    rw [encode_prepend_run (by decide), ih]
    rfl
  | @splice position half s rest segments enclosed read tail ih =>
    rw [encode_prepend_backslashes, ← backslashes_append_cons]
    simp only [List.map_cons, Segment.part, endsRunBefore, encode, ih]
    rfl

/-- Literal text in front of segments leaves no literal empty and joins neighbours. -/
theorem tidy_prependText (text : List Char) {segments : List Segment}
    (tidy : Tidy (segments.map Segment.part)) :
    Tidy ((prependText text segments).map Segment.part) := by
  cases text with
  | nil => rwa [prependText_nil]
  | cons c text =>
    match segments with
    | [] => exact ⟨List.cons_ne_nil c text, .inl rfl, trivial⟩
    | .literal after :: rest => exact ⟨List.cons_ne_nil c _, tidy.2.1, tidy.2.2⟩
    | .splice s :: rest => exact ⟨List.cons_ne_nil c text, .inr rfl, tidy⟩

theorem tidy_of_divided {position run : Nat} {source : List Char} {segments : List Segment}
    (divided : Divided position run source segments) : Tidy (segments.map Segment.part) := by
  induction divided with
  | done position run => exact tidy_prependText _ trivial
  | backslash tail ih => exact ih
  | plain noSlash noMarker tail ih => exact tidy_prependText _ ih
  | marker tail ih => exact tidy_prependText _ ih
  | splice enclosed read tail ih => exact tidy_prependText _ (show Tidy (_ :: _) from ih)

/-- Each splice stands in the source as it is written, behind an even run of backslashes. -/
theorem marker_of_divided {position run : Nat} {source : List Char} {segments : List Segment}
    (divided : Divided position run source segments) (seen : List Char)
    (placed : seen.length = position) (ends : trailingRun seen = run) {s : Splice}
    (member : s ∈ splices segments) :
    ∃ before after, seen ++ source = before ++ '\\' :: '(' :: (s.contents ++ ')' :: after) ∧
      before.length = s.position ∧ trailingRun before % 2 = 0 := by
  induction divided generalizing seen with
  | done position run =>
    rw [splices_prependText] at member
    simp [splices] at member
  | @backslash position run rest segments tail ih =>
    obtain ⟨before, after, same, facts⟩ :=
      ih (seen ++ ['\\']) (by simp [placed]) (by simp [ends]) member
    exact ⟨before, after, by simpa using same, facts⟩
  | @plain position run c rest segments noSlash noMarker tail ih =>
    rw [splices_prependText] at member
    obtain ⟨before, after, same, facts⟩ := ih (seen ++ [c]) (by simp [placed])
      (Text.trailingRun_append_other seen noSlash) member
    exact ⟨before, after, by simpa using same, facts⟩
  | @marker position half rest segments tail ih =>
    rw [splices_prependText] at member
    obtain ⟨before, after, same, facts⟩ := ih (seen ++ ['(']) (by simp [placed])
      (Text.trailingRun_append_other seen (by decide)) member
    exact ⟨before, after, by simpa using same, facts⟩
  | @splice position half first rest segments enclosed read tail ih =>
    rw [splices_prependText] at member
    rcases List.mem_cons.1 member with rfl | later
    · obtain ⟨before, rfl, even⟩ := Text.exists_of_trailingRun_eq_succ ends
      have place := (ofContents_eq_ok_iff.1 read).2.2.2.2.2
      rw [List.length_append, List.length_singleton] at placed
      exact ⟨before, rest, by simp, by omega, by omega⟩
    · have closed := Text.trailingRun_append_other (seen ++ '(' :: first.contents) (c := ')')
        (by decide)
      obtain ⟨before, after, same, facts⟩ := ih (seen ++ '(' :: first.contents ++ [')'])
        (by simp [placed]; omega) closed later
      exact ⟨before, after, by simpa using same, facts⟩

/-- Splices stand in the order of their positions and do not overlap. -/
theorem order_of_divided {position run : Nat} {source : List Char} {segments : List Segment}
    (divided : Divided position run source segments) (fits : run ≤ position) :
    (∀ s ∈ splices segments, position ≤ s.position + run) ∧
      (splices segments).Pairwise fun s t => s.position < t.position ∧ s.stop ≤ t.position := by
  induction divided with
  | done position run =>
    rw [splices_prependText]
    exact ⟨by simp [splices], .nil⟩
  | backslash tail ih =>
    obtain ⟨later, ordered⟩ := ih (by omega)
    exact ⟨fun s member => by have := later s member; omega, ordered⟩
  | plain noSlash noMarker tail ih =>
    rw [splices_prependText]
    obtain ⟨later, ordered⟩ := ih (by omega)
    exact ⟨fun s member => by have := later s member; omega, ordered⟩
  | marker tail ih =>
    rw [splices_prependText]
    obtain ⟨later, ordered⟩ := ih (by omega)
    exact ⟨fun s member => by have := later s member; omega, ordered⟩
  | @splice position half first rest segments enclosed read tail ih =>
    rw [splices_prependText]
    obtain ⟨later, ordered⟩ := ih (by omega)
    have place := (ofContents_eq_ok_iff.1 read).2.2.2.2.2
    refine ⟨fun s member => ?_, List.pairwise_cons.2 ⟨fun s member => ?_, ordered⟩⟩
    · rcases List.mem_cons.1 member with rfl | member
      · omega
      · have := later s member
        omega
    · have := later s member
      rw [Splice.stop]
      omega

/-- Scanning loses nothing: the segments are tidy, the splices stand where and as they are written,
in order and apart from each other, and the segments are written as the source. So no other source
gives the same literals and contents. -/
theorem scan_loses_nothing (source : List Char) (segments : List Segment)
    (scanned : scan source = .ok segments) :
    Tidy (segments.map Segment.part) ∧
      ((splices segments).Pairwise fun s t => s.position < t.position ∧ s.stop ≤ t.position) ∧
      (∀ s ∈ splices segments, ∃ before after,
        source = before ++ '\\' :: '(' :: (s.contents ++ ')' :: after) ∧
          before.length = s.position ∧ trailingRun before % 2 = 0) ∧
      encode (segments.map Segment.part) = source ∧
      ∀ other others, scan other = .ok others →
        others.map Segment.part = segments.map Segment.part → other = source := by
  have divided := scan_eq_ok_iff.1 scanned
  have written : encode (segments.map Segment.part) = source := encode_of_divided divided
  refine ⟨tidy_of_divided divided, (order_of_divided divided (Nat.le_refl 0)).2,
    fun s member => marker_of_divided divided [] rfl rfl member, written, ?_⟩
  intro other others scannedOther same
  have writtenOther : encode (others.map Segment.part) = other :=
    encode_of_divided (scan_eq_ok_iff.1 scannedOther)
  rw [← writtenOther, ← written, same]

/-- A splice behind an even run of backslashes, with brackets in a text, and a second splice. -/
theorem scan_loses_nothing_nested :
    ∃ segments, scan "\\\\\\(f(')'))\\(x)".toList = .ok segments ∧
      Tidy (segments.map Segment.part) ∧
      ((splices segments).Pairwise fun s t => s.position < t.position ∧ s.stop ≤ t.position) ∧
      encode (segments.map Segment.part) = "\\\\\\(f(')'))\\(x)".toList := by
  obtain ⟨segments, scanned⟩ :=
    exists_eq_ok (x := scan "\\\\\\(f(')'))\\(x)".toList) (by decide +kernel)
  obtain ⟨tidy, ordered, -, written, -⟩ := scan_loses_nothing _ segments scanned
  exact ⟨segments, scanned, tidy, ordered, written⟩

/-! ### Reading what was written -/

/-- Written literal text is read back in front of whatever is read behind it. The run before it
was doubled under the same condition as the runs inside. -/
theorem divided_encodeLiteral (beforeSplice : Bool) {stop : Nat} {rest : List Char}
    {segments : List Segment}
    (behind : ∀ count, Divided stop (if beforeSplice = true then 2 * count else count) rest
      (prependText (backslashes count) segments))
    (text : List Char) (position count : Nat)
    (reached : position + (encodeLiteral beforeSplice text).length = stop) :
    Divided position (if endsRun beforeSplice text = true then 2 * count else count)
      (encodeLiteral beforeSplice text ++ rest)
      (prependText (backslashes count ++ text) segments) := by
  induction text generalizing position count with
  | nil =>
    obtain rfl : position = stop := reached
    rw [List.append_nil]
    exact behind count
  | cons c text ih =>
    by_cases slash : c = '\\'
    · subst slash
      rw [backslashes_append_cons]
      by_cases doubled : endsRun beforeSplice text = true
      · have next : position + 2 + (encodeLiteral beforeSplice text).length = stop := by
          simp [encodeLiteral, doubled] at reached
          omega
        have tail := ih (position + 2) (count + 1) next
        rw [if_pos doubled] at tail
        have run : endsRun beforeSplice ('\\' :: text) = true := doubled
        rw [if_pos run, encodeLiteral, if_pos ⟨rfl, doubled⟩]
        exact .backslash (.backslash tail)
      · have next : position + 1 + (encodeLiteral beforeSplice text).length = stop := by
          simp [encodeLiteral, doubled] at reached
          omega
        have tail := ih (position + 1) (count + 1) next
        rw [if_neg doubled] at tail
        have run : ¬ endsRun beforeSplice ('\\' :: text) = true := doubled
        rw [if_neg run, encodeLiteral, if_neg (fun both => doubled both.2)]
        exact .backslash tail
    · rw [encodeLiteral_cons slash] at reached ⊢
      have tail := ih (position + 1) 0 (by simp at reached; omega)
      rw [prependText_append_cons]
      simp only [Nat.mul_zero, ite_self] at tail
      by_cases bracket : c = '('
      · subst bracket
        cases count with
        | zero => exact .plain slash (fun _ => rfl) tail
        | succ half => exact .marker tail
      · have run : endsRun beforeSplice (c :: text) = false := by simp [endsRun, slash, bracket]
        rw [run]
        exact .plain slash (fun same => absurd same bracket) tail

/-- Accepted contents are read wherever their splice stands and whatever follows it. -/
theorem divided_splice {contents : List Char} (accepted : AcceptedAlone contents)
    (position : Nat) :
    ∃ s, s.contents = contents ∧ s.position = position ∧
      ∀ rest segments count, Divided (position + contents.length + 3) 0 rest segments →
        Divided position (2 * count) ('\\' :: '(' :: (contents ++ ')' :: rest))
          (prependText (backslashes count) (.splice s :: segments)) := by
  obtain ⟨found, alone, read⟩ := accepted
  obtain ⟨filled, parsed, oneValue, accepted, rfl, -⟩ := ofContents_eq_ok_iff.1 read
  have enclosed : Enclosed 0 .code alone.contents := (closing_eq_ok_iff.1 found).2
  have moved : Splice.ofContents alone.contents position =
      .ok { alone with position := position } :=
    ofContents_eq_ok_iff.2 ⟨filled, parsed, oneValue, accepted, rfl, rfl⟩
  refine ⟨{ alone with position := position }, rfl, rfl, fun rest segments count tail => ?_⟩
  refine .backslash (.splice (s := { alone with position := position }) enclosed moved ?_)
  have place : position + 1 + alone.contents.length + 2 = position + alone.contents.length + 3 := by
    omega
  rw [place]
  exact tail

theorem startsWithSplice_eq_endsRunBefore {parts : List Part}
    (next : parts = [] ∨ startsWithSplice parts = true) :
    startsWithSplice parts = endsRunBefore parts := by
  match parts with
  | [] | .splice _ :: _ => rfl
  | .literal _ :: _ => simp [startsWithSplice, Part.isSplice] at next

/-- A literal that is not empty stays apart from a splice behind it. -/
theorem prependText_eq_cons {text : List Char} {segments : List Segment} (filled : text ≠ [])
    (next : segments.map Segment.part = [] ∨
      startsWithSplice (segments.map Segment.part) = true) :
    prependText text segments = .literal text :: segments := by
  obtain ⟨c, text, rfl⟩ := List.exists_cons_of_ne_nil filled
  match segments with
  | [] | .splice _ :: _ => rfl
  | .literal _ :: _ => simp [startsWithSplice, Segment.part, Part.isSplice] at next

theorem divided_encode (parts : List Part) (tidy : Tidy parts)
    (accepted : ∀ contents, .splice contents ∈ parts → AcceptedAlone contents) (position : Nat) :
    ∃ segments,
      (∀ count, Divided position (if endsRunBefore parts = true then 2 * count else count)
        (encode parts) (prependText (backslashes count) segments)) ∧
      segments.map Segment.part = parts ∧
      (splices segments).map Splice.position = markers position parts := by
  induction parts generalizing position with
  | nil => exact ⟨[], fun count => .done position count, rfl, rfl⟩
  | cons first rest ih =>
    have acceptedRest : ∀ contents, .splice contents ∈ rest → AcceptedAlone contents :=
      fun contents member => accepted contents (List.mem_cons_of_mem first member)
    cases first with
    | literal text =>
      obtain ⟨filled, next, tidyRest⟩ := tidy
      obtain ⟨segments, divided, same, placed⟩ := ih tidyRest acceptedRest
        (position + (encodeLiteral (startsWithSplice rest) text).length)
      rw [← startsWithSplice_eq_endsRunBefore next] at divided
      refine ⟨.literal text :: segments, fun count => ?_, ?_, placed⟩
      · rw [← prependText_eq_cons filled (by rwa [same]), ← prependText_append]
        exact divided_encodeLiteral _ divided text position count rfl
      · rw [List.map_cons, same]
        rfl
    | splice contents =>
      obtain ⟨segments, divided, same, placed⟩ := ih tidy acceptedRest
        (position + contents.length + 3)
      obtain ⟨s, rfl, rfl, reads⟩ := divided_splice (accepted contents (by simp)) position
      refine ⟨.splice s :: segments, fun count => reads _ _ count ?_, ?_, ?_⟩
      · simpa [backslashes] using divided 0
      · rw [List.map_cons, same]
        rfl
      · rw [markers, ← placed]
        rfl

/-- Tidy parts whose splices are accepted alone are read back as they were written, in order, with
every splice at the position of its marker and read from its contents. In particular literal text
is read back as one literal, or none if it is empty. -/
theorem scan_encode :
    (∀ parts, Tidy parts → (∀ contents, .splice contents ∈ parts → AcceptedAlone contents) →
      ∃ segments, scan (encode parts) = .ok segments ∧ segments.map Segment.part = parts ∧
        (splices segments).map Splice.position = markers 0 parts ∧
        ∀ s ∈ splices segments, Splice.ofContents s.contents s.position = .ok s) ∧
      ∀ text, scan (encodeLiteral false text) =
        .ok (if text = [] then [] else [.literal text]) := by
  constructor
  · intro parts tidy accepted
    obtain ⟨segments, divided, same, placed⟩ := divided_encode parts tidy accepted 0
    have start : Divided 0 0 (encode parts) segments := by simpa [backslashes] using divided 0
    exact ⟨segments, scan_eq_ok_iff.2 start, same, placed,
      fun s member => (read_of_divided start member).2⟩
  · intro text
    have behind (count : Nat) := Divided.done (encodeLiteral false text).length count
    have divided := divided_encodeLiteral false behind text 0 0 (Nat.zero_add _)
    rw [List.append_nil, Nat.mul_zero, ite_self] at divided
    rw [scan_eq_ok_iff.2 divided]
    cases text <;> rfl

theorem acceptedAlone_name : AcceptedAlone ['x'] :=
  ⟨closing_eq_ok_iff.2 ⟨rfl, .plain rfl (by decide) (by decide) .done⟩,
    exists_eq_ok (by decide +kernel)⟩

/-- A run of backslashes before a splice, and a run before a bracket. -/
theorem scan_encode_backslashes :
    let parts : List Part := [.literal ['\\', '\\'], .splice ['x'], .literal ['\\', '(']]
    Tidy parts ∧ (∀ contents, .splice contents ∈ parts → AcceptedAlone contents) ∧
      ∃ segments, scan (encode parts) = .ok segments ∧ segments.map Segment.part = parts ∧
        (splices segments).map Splice.position = [4] ∧
        ∀ s ∈ splices segments, Splice.ofContents s.contents s.position = .ok s := by
  intro parts
  have tidy : Tidy parts := ⟨by simp, .inr rfl, by simp, .inl rfl, trivial⟩
  have accepted : ∀ contents, .splice contents ∈ parts → AcceptedAlone contents := by
    intro contents member
    obtain rfl : contents = ['x'] := by simpa [parts] using member
    exact acceptedAlone_name
  exact ⟨tidy, accepted, scan_encode.1 parts tidy accepted⟩

end TypstMarkup.Template
