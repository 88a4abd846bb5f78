import Mathlib.Data.List.Pairwise
import Mathlib.Data.List.Sort
import TypstMarkup.Proofs.Template.Concatenated
import TypstMarkup.Proofs.Template.Grammar
import TypstMarkup.Proofs.Template.Written

/-!
The first malformed splice. Scanning ends there, so the splices found are the ones that stand before
it, and what is reported is decided by the text up to the end of the malformed splice. Only a splice
that is not closed may still be closed by later text.
-/
namespace TypstMarkup.Template
open Text (trailingRun)

/-! ### Splices before a position -/

/-- A splice marker stands at a position: a backslash and a bracket, behind an even run of
backslashes. -/
def MarkerAt (source : List Char) (position : Nat) : Prop :=
  ∃ before after, source = before ++ '\\' :: '(' :: after ∧ before.length = position ∧
    trailingRun before % 2 = 0

/-- A splice stands in a source as it is written, is closed there and can be read. -/
structure Stands (source : List Char) (s : Splice) : Prop where
  written : ∃ before after, source = before ++ '\\' :: '(' :: (s.contents ++ ')' :: after) ∧
    before.length = s.position ∧ trailingRun before % 2 = 0
  enclosed : Enclosed 0 .code s.contents
  read : Splice.ofContents s.contents s.position = .ok s

/-- A splice ends before another one starts. -/
def Splice.IsBefore (s t : Splice) : Prop := s.stop ≤ t.position

/-- The splices of a source before a position: they stand there one behind the other, and every
marker before the position belongs to one of them. -/
structure Precede (source : List Char) (position : Nat) (found : List Splice) : Prop where
  stand : ∀ s ∈ found, Stands source s
  ordered : found.Pairwise Splice.IsBefore
  before : ∀ s ∈ found, s.stop ≤ position
  all : ∀ place < position, MarkerAt source place →
    ∃ s ∈ found, s.position ≤ place ∧ place < s.stop

theorem Splice.position_lt_stop (s : Splice) : s.position < s.stop := by
  rw [Splice.stop]
  omega

instance : Std.Irrefl Splice.IsBefore where
  irrefl s before := Nat.not_le_of_lt s.position_lt_stop before

instance : Std.Antisymm Splice.IsBefore where
  antisymm s t before after := by
    have := s.position_lt_stop
    have := t.position_lt_stop
    unfold Splice.IsBefore at before after
    omega

theorem Stands.markerAt {source : List Char} {s : Splice} (stands : Stands source s) :
    MarkerAt source s.position := by
  obtain ⟨before, after, same, placed, even⟩ := stands.written
  exact ⟨before, _, same, placed, even⟩

theorem Stands.unique {source : List Char} {s t : Splice} (first : Stands source s)
    (second : Stands source t) (same : s.position = t.position) : s = t := by
  obtain ⟨before, after, rfl, placed, -⟩ := first.written
  obtain ⟨before', after', written, placed', -⟩ := second.written
  obtain ⟨rfl, rest⟩ := List.append_inj written (by omega)
  have rest : s.contents ++ ')' :: after = t.contents ++ ')' :: after' := by simpa using rest
  have found : closing (s.contents ++ ')' :: after) = .ok (s.contents, after) :=
    closing_eq_ok_iff.2 ⟨rfl, first.enclosed⟩
  have found' : closing (t.contents ++ ')' :: after') = .ok (t.contents, after') :=
    closing_eq_ok_iff.2 ⟨rfl, second.enclosed⟩
  obtain ⟨contents, -⟩ : t.contents = s.contents ∧ after' = after := by
    simpa [rest, found'] using found
  have read := second.read
  rw [contents, ← same, first.read] at read
  cases read
  rfl

theorem Precede.eq_of_within {source : List Char} {position : Nat} {found : List Splice}
    (precede : Precede source position found) {s t : Splice} (first : s ∈ found)
    (second : t ∈ found) (starts : s.position ≤ t.position) (within : t.position < s.stop) :
    s = t := by
  by_contra apart
  -- Of two splices one ends before the other one starts.
  have disjoint : found.Pairwise fun s t => s.IsBefore t ∨ t.IsBefore s := precede.ordered.imp .inl
  have symmetric : Std.Symm fun s t : Splice => s.IsBefore t ∨ t.IsBefore s :=
    ⟨fun _ _ => Or.symm⟩
  have ends := t.position_lt_stop
  rcases disjoint.forall first second apart with before | before
  · exact Nat.not_lt_of_le before within
  · exact Nat.not_lt_of_le (Nat.le_trans before starts) ends

theorem Precede.mem {source : List Char} {position : Nat} {found found' : List Splice}
    (precede : Precede source position found) (precede' : Precede source position found')
    {s : Splice} (member : s ∈ found) : s ∈ found' := by
  -- From left to right: where both lists agree before a splice, they agree on the splice.
  induction place : s.position using Nat.strongRecOn generalizing found found' s with
  | ind place ih =>
    subst place
    have stands := precede.stand s member
    have earlier : s.position < position :=
      Nat.lt_of_lt_of_le s.position_lt_stop (precede.before s member)
    obtain ⟨t, member', starts, within⟩ := precede'.all _ earlier stands.markerAt
    obtain less | same := Nat.lt_or_eq_of_le starts
    · have shared := ih _ less precede' precede member' rfl
      rw [precede.eq_of_within shared member starts within] at less
      exact absurd less (Nat.lt_irrefl _)
    · rwa [stands.unique (precede'.stand t member') same.symm]

theorem Precede.unique {source : List Char} {position : Nat} {found found' : List Splice}
    (precede : Precede source position found) (precede' : Precede source position found') :
    found = found' := by
  refine precede.ordered.eq_of_mem_iff precede'.ordered fun s => ?_
  constructor
  · exact precede.mem precede'
  · exact precede'.mem precede

/-! ### What a division finds -/

theorem eq_of_marker_at_end {seen source before after : List Char}
    (same : seen ++ source = before ++ '\\' :: '(' :: after)
    (here : before.length + 1 = seen.length) :
    source = '(' :: after ∧ trailingRun seen = trailingRun before + 1 := by
  rw [List.append_cons] at same
  obtain ⟨rfl, rfl⟩ := List.append_inj same (by simp [here])
  exact ⟨rfl, Text.trailingRun_append_backslash before⟩

/-- Every marker of a source belongs to a splice of its division. -/
theorem covered_of_divided {position run : Nat} {source : List Char} {segments : List Segment}
    (divided : Divided position run source segments) (seen : List Char)
    (placed : seen.length = position) (ends : trailingRun seen = run) {before after : List Char}
    (same : seen ++ source = before ++ '\\' :: '(' :: after) (even : trailingRun before % 2 = 0)
    (inside : position ≤ before.length + 1) :
    ∃ s ∈ splices segments, s.position ≤ before.length ∧ before.length < s.stop := by
  induction divided generalizing seen with
  | done position run =>
    have size := congrArg List.length same
    simp only [List.length_append, List.length_cons, List.length_nil] at size
    omega
  | @backslash position run rest segments tail ih =>
    obtain here | later := Nat.eq_or_lt_of_le inside
    · have marker := (eq_of_marker_at_end same (by omega)).1
      cases marker
    · exact ih (seen ++ ['\\']) (by simp [placed]) (by simp [ends]) (by simpa using same) later
  | @plain position run c rest segments noSlash noMarker tail ih =>
    rw [splices_prependText]
    obtain here | later := Nat.eq_or_lt_of_le inside
    · obtain ⟨marker, odd⟩ := eq_of_marker_at_end same (by omega)
      have none := noMarker (List.cons.inj marker).1
      omega
    · exact ih (seen ++ [c]) (by simp [placed]) (Text.trailingRun_append_other seen noSlash)
        (by simpa using same) later
  | @marker position half rest segments tail ih =>
    rw [splices_prependText]
    obtain here | later := Nat.eq_or_lt_of_le inside
    · have odd := (eq_of_marker_at_end same (by omega)).2
      omega
    · exact ih (seen ++ ['(']) (by simp [placed])
        (Text.trailingRun_append_other seen (by decide)) (by simpa using same) later
  | @splice position half s rest segments enclosed read tail ih =>
    rw [splices_prependText]
    have place := (ofContents_eq_ok_iff.1 read).2.2.2.2.2
    by_cases within : before.length + 1 < position + s.contents.length + 2
    · refine ⟨s, List.mem_cons_self, by omega, ?_⟩
      rw [Splice.stop]
      omega
    · obtain ⟨t, member, covers⟩ := ih (seen ++ '(' :: s.contents ++ [')'])
        (by simp [placed]; omega)
        (Text.trailingRun_append_other (seen ++ '(' :: s.contents) (by decide))
        (by simpa using same) (by omega)
      exact ⟨t, List.mem_cons_of_mem s member, covers⟩

/-- A division does not depend on a backslash at the end. -/
theorem Divided.dropLast {position run : Nat} {before : List Char} {segments : List Segment}
    (divided : Divided position run (before ++ ['\\']) segments) :
    ∃ segments', Divided position run before segments' := by
  generalize same : before ++ ['\\'] = source at divided
  induction divided generalizing before with
  | done => simp at same
  | @backslash position run rest segments tail ih =>
    obtain ⟨rfl, -⟩ | ⟨before, rfl, rfl⟩ := List.append_eq_cons_iff.1 same
    · exact ⟨_, .done position run⟩
    · obtain ⟨segments', divided⟩ := ih rfl
      exact ⟨segments', .backslash divided⟩
  | @plain position run c rest segments noSlash noMarker tail ih =>
    obtain ⟨rfl, last⟩ | ⟨before, rfl, rfl⟩ := List.append_eq_cons_iff.1 same
    · exact absurd (List.cons.inj last).1.symm noSlash
    · obtain ⟨segments', divided⟩ := ih rfl
      exact ⟨_, .plain noSlash noMarker divided⟩
  | @marker position half rest segments tail ih =>
    obtain ⟨rfl, last⟩ | ⟨before, rfl, rfl⟩ := List.append_eq_cons_iff.1 same
    · cases last
    · obtain ⟨segments', divided⟩ := ih rfl
      exact ⟨_, .marker divided⟩
  | @splice position half s rest segments enclosed read tail ih =>
    obtain ⟨rfl, last⟩ | ⟨before, rfl, behind⟩ := List.append_eq_cons_iff.1 same
    · cases last
    -- The last character of the source is no closing bracket, so it stands behind the splice.
    cases rest using List.reverseRecOn with
    | nil => simpa using (List.append_inj' behind rfl).2
    | append_singleton rest c =>
      rw [← List.cons_append, ← List.append_assoc] at behind
      obtain ⟨rfl, last⟩ := List.append_inj' behind rfl
      obtain ⟨segments', divided⟩ := ih (by rw [last])
      exact ⟨_, .splice enclosed read divided⟩

theorem precede_of_divided {before rest : List Char} {segments : List Segment}
    (divided : Divided 0 0 before segments) (behind : rest.head? ≠ some '(') :
    Precede (before ++ rest) before.length (splices segments) where
  stand s member := by
    obtain ⟨text, after, same, placed, even⟩ := marker_of_divided divided [] rfl rfl member
    obtain ⟨enclosed, read⟩ := read_of_divided divided member
    rw [List.nil_append] at same
    exact ⟨⟨text, after ++ rest, by simp [same], placed, even⟩, enclosed, read⟩
  ordered := (order_of_divided divided (Nat.le_refl 0)).2.imp And.right
  before s member := by
    obtain ⟨text, after, same, placed, -⟩ := marker_of_divided divided [] rfl rfl member
    have size := congrArg List.length same
    simp only [List.nil_append, List.length_append, List.length_cons] at size
    rw [Splice.stop]
    omega
  all place earlier marker := by
    obtain ⟨text, after, same, rfl, even⟩ := marker
    obtain ⟨more, rfl, -⟩ | ⟨more, rfl, within⟩ := List.append_eq_append_iff.1 same
    · rw [List.length_append] at earlier
      omega
    -- The whole marker stands before the position.
    cases more with
    | nil => simp at earlier
    | cons c more =>
      cases more with
      | nil =>
        obtain rfl : rest = '(' :: after := (List.cons.inj within).2.symm
        exact absurd rfl behind
      | cons d more =>
        cases within
        exact covered_of_divided divided [] rfl rfl rfl even (Nat.zero_le _)

/-! ### The fault itself -/

/-- What is wrong with a splice that is closed stays wrong, whatever follows in the source. -/
theorem spliceFault?_append {position : Nat} {source : List Char} {f : ScanFault}
    (fault : spliceFault? position source = some f)
    (closed : ∀ place, f ≠ .malformed .unterminatedMarker place ∧
      f ≠ .malformed .unterminatedString place) (later : List Char) :
    spliceFault? position (source ++ later) = some f := by
  unfold spliceFault? at fault
  split at fault
  · rename_i reason failed
    cases fault
    rcases reason_of_closing failed with ⟨-, rfl⟩ | ⟨-, rfl⟩
    · exact absurd rfl (closed position).2
    · exact absurd rfl (closed position).1
  · rename_i contents rest found
    obtain ⟨rfl, enclosed⟩ := closing_eq_ok_iff.1 found
    have found' : closing (contents ++ ')' :: rest ++ later) = .ok (contents, rest ++ later) :=
      closing_eq_ok_iff.2 ⟨by simp, enclosed⟩
    rwa [spliceFault?, found']

theorem scan_append_of_error {source : List Char} {f : ScanFault} (failed : scan source = .error f)
    (closed : ∀ place, f ≠ .malformed .unterminatedMarker place ∧
      f ≠ .malformed .unterminatedString place) (later : List Char) :
    scan (source ++ later) = .error f := by
  obtain ⟨before, rest, segments, rfl, odd, scanned, fault⟩ := scan_eq_error_iff.1 failed
  exact scan_eq_error_iff.2 ⟨before, rest ++ later, segments, by simp, odd, scanned,
    spliceFault?_append fault closed later⟩

theorem exists_marker_of_malformed {source : List Char} {reason : SpliceReason} {position : Nat}
    (failed : scan source = .error (.malformed reason position)) :
    ∃ before rest segments, source = before ++ '\\' :: '(' :: rest ∧ before.length = position ∧
      trailingRun before % 2 = 0 ∧ Divided 0 0 before segments := by
  obtain ⟨front, rest, segments, rfl, odd, scanned, fault⟩ := scan_eq_error_iff.1 failed
  obtain ⟨run, ends⟩ : ∃ run, trailingRun front = run + 1 := ⟨trailingRun front - 1, by omega⟩
  obtain ⟨before, rfl, even⟩ := Text.exists_of_trailingRun_eq_succ ends
  obtain ⟨segments', divided⟩ := (scan_eq_ok_iff.1 scanned).dropLast
  obtain ⟨_, same⟩ | ⟨_, _, _, _, -, -, -, impossible⟩ := spliceFault?_cases fault
  · cases same
    exact ⟨before, rest, segments', by simp, by simp, by omega, divided⟩
  · cases impossible

/-- A malformed splice is reported at its marker, the text before it can be divided into the splices
that stand before it and literal text, and if the splice is closed, then it is reported for the same
reason and at the same position whatever follows in the source. -/
theorem first_malformed_splice_is_reported {source : List Char} {reason : SpliceReason}
    {position : Nat} {location : Location}
    (failed : ofSource? source = .error (.malformedTemplate reason position location)) :
    MarkerAt source position ∧
      (∃ segments, scan (source.take position) = .ok segments ∧
        ∀ found, Precede source position found ↔ found = splices segments) ∧
      (reason ≠ .unterminatedMarker → reason ≠ .unterminatedString → ∀ later,
        ∃ location', ofSource? (source ++ later) =
          .error (.malformedTemplate reason position location')) := by
  have scanned := (ofSource?_eq_malformed_iff.1 failed).1
  obtain ⟨before, rest, segments, rfl, rfl, even, divided⟩ := exists_marker_of_malformed scanned
  refine ⟨⟨before, rest, rfl, rfl, even⟩, ⟨segments, ?_, fun found => ?_⟩, ?_⟩
  · rw [List.take_left]
    exact scan_eq_ok_iff.2 divided
  · have precede : Precede (before ++ '\\' :: '(' :: rest) before.length (splices segments) :=
      precede_of_divided divided (by simp)
    exact ⟨fun other => other.unique precede, fun same => same ▸ precede⟩
  · intro noMarker noString later
    have again := scan_append_of_error scanned (by simp [noMarker, noString]) later
    obtain ⟨location', found, -⟩ := toFault_of_malformed again
    exact ⟨location', ofSource?_eq_malformed_iff.2 ⟨again, found⟩⟩

/-- An empty splice behind a splice whose contents hold a marker in quotes. -/
theorem first_malformed_splice_is_reported_empty :
    ∃ location, ofSource? "\\(f('\\(')) \\() \\(".toList =
        .error (.malformedTemplate .empty 11 location) ∧
      MarkerAt "\\(f('\\(')) \\() \\(".toList 11 ∧
      ∃ location', ofSource? ("\\(f('\\(')) \\() \\(".toList ++ "')".toList) =
        .error (.malformedTemplate .empty 11 location') := by
  obtain ⟨segments, scanned⟩ :=
    exists_eq_ok (x := scan "\\(f('\\(')) \\".toList) (by decide +kernel)
  have failed : scan "\\(f('\\(')) \\() \\(".toList = .error (.malformed .empty 11) :=
    scan_eq_error_iff.2 ⟨_, ") \\(".toList, segments, by rfl, by decide, scanned, by rfl⟩
  obtain ⟨location, found, -⟩ := toFault_of_malformed failed
  have reported := ofSource?_eq_malformed_iff.2 ⟨failed, found⟩
  obtain ⟨marker, -, stays⟩ := first_malformed_splice_is_reported reported
  exact ⟨location, reported, marker, stays (by simp) (by simp) _⟩

end TypstMarkup.Template
