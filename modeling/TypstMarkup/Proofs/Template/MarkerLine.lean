import TypstMarkup.Proofs.Template.FirstFault
import TypstMarkup.Proofs.Template.Position

/-!
The line that is shown for a malformed splice. Its number counts line feeds, but its text is taken
from the division at all line ends. So the marker is shown where only line feeds end the lines
before it, each alone or behind a carriage return. Any other line end before the marker makes the
text that of a line further up, which shows a marker in that column by chance at most.
-/
namespace TypstMarkup.Template

/-- A line has a marker in a column. -/
def ShowsMarker (line : List Char) (column : Nat) : Prop :=
  (line.drop (column - 1)).take 2 = ['\\', '(']

instance (line : List Char) (column : Nat) : Decidable (ShowsMarker line column) :=
  inferInstanceAs (Decidable (_ = _))

/-- Every line end of a text is a line feed or a carriage return before one. -/
def FeedsOnly (text : List Char) : Prop :=
  ∀ before c after, text = before ++ c :: after → Text.isLineEnd c = true →
    c = '\n' ∨ c = '\r' ∧ after.head? = some '\n'

theorem feedsOnly_nil : FeedsOnly [] := by
  intro before c after split
  simp at split

theorem feedsOnly_cons {c : Char} {rest : List Char} :
    FeedsOnly (c :: rest) ↔
      (Text.isLineEnd c = true → c = '\n' ∨ c = '\r' ∧ rest.head? = some '\n') ∧
        FeedsOnly rest := by
  constructor
  · intro feeds
    refine ⟨feeds [] c rest rfl, ?_⟩
    intro before d after split
    exact feeds (c :: before) d after (by rw [split, List.cons_append])
  · rintro ⟨first, later⟩ before d after split
    cases before with
    | nil =>
      cases split
      exact first
    | cons e before =>
      cases split
      exact later before d after rfl

/-! ### Line ends of a part -/

/-- What a part of a text does to an open line (kept reversed): the lines that end in it, and the
line that is open behind it. -/
inductive Breaks : List Char → List Char → List (List Char) → List Char → Prop
  | done (line : List Char) : Breaks line [] [] line
  | pair {line rest last : List Char} {closed : List (List Char)}
      (tail : Breaks [] rest closed last) :
      Breaks line ('\r' :: '\n' :: rest) (line.reverse :: closed) last
  | single {line rest last : List Char} {closed : List (List Char)} {c : Char}
      (ends : Text.isLineEnd c = true) (lone : c = '\r' → rest.head? ≠ some '\n')
      (tail : Breaks [] rest closed last) : Breaks line (c :: rest) (line.reverse :: closed) last
  | plain {line rest last : List Char} {closed : List (List Char)} {c : Char}
      (inside : Text.isLineEnd c = false) (tail : Breaks (c :: line) rest closed last) :
      Breaks line (c :: rest) closed last

theorem exists_breaks (line before : List Char) :
    ∃ closed last, Breaks line before closed last := by
  fun_induction Text.linesFrom line before with
  | case1 line | case2 line => exact ⟨[], line, .done line⟩
  | case3 line rest ih =>
    obtain ⟨closed, last, tail⟩ := ih
    exact ⟨_, last, .pair tail⟩
  | case4 line c rest noPair ends ih =>
    obtain ⟨closed, last, tail⟩ := ih
    refine ⟨_, last, .single ends ?_ tail⟩
    intro carriage feed
    obtain ⟨after, rfl⟩ := List.head?_eq_some_iff.1 feed
    exact noPair after carriage rfl
  | case5 line c rest noPair inside ih =>
    obtain ⟨closed, last, tail⟩ := ih
    exact ⟨closed, last, .plain (by simpa using inside) tail⟩

theorem ne_feed {c : Char} (inside : Text.isLineEnd c = false) : c ≠ '\n' := by
  rintro rfl
  exact absurd inside (by decide)

theorem linesFrom_single {line rest : List Char} {c : Char} (ends : Text.isLineEnd c = true)
    (lone : c = '\r' → rest.head? ≠ some '\n') :
    Text.linesFrom line (c :: rest) = line.reverse :: Text.linesFrom [] rest := by
  rw [Text.linesFrom, if_pos ends]
  rintro after rfl rfl
  exact lone rfl rfl

theorem linesFrom_plain {line rest : List Char} {c : Char} (inside : Text.isLineEnd c = false) :
    Text.linesFrom line (c :: rest) = Text.linesFrom (c :: line) rest := by
  rw [Text.linesFrom, if_neg (by simp [inside])]
  rintro after rfl
  exact absurd inside (by decide)

theorem exists_linesFrom {line : List Char} (filled : line ≠ []) (rest : List Char) :
    ∃ more others, Text.linesFrom line rest = (line.reverse ++ more) :: others := by
  fun_induction Text.linesFrom line rest with
  | case1 line empty => exact absurd (List.isEmpty_iff.1 empty) filled
  | case2 line => exact ⟨[], [], by simp⟩
  | case3 line rest =>
    refine ⟨[], Text.linesFrom [] rest, ?_⟩
    rw [List.append_nil]
  | case4 line c rest =>
    refine ⟨[], Text.linesFrom [] rest, ?_⟩
    rw [List.append_nil]
  | case5 line c rest _ _ ih =>
    obtain ⟨more, others, same⟩ := ih (List.cons_ne_nil c line)
    exact ⟨c :: more, others, by simp [same]⟩

namespace Breaks

variable {line before last : List Char} {closed : List (List Char)}

/-- The lines that end in a part are lines of every text that goes on behind it, unless a line feed
joins its last line end. -/
theorem linesFrom_append (breaks : Breaks line before closed last) {rest : List Char}
    (next : rest.head? ≠ some '\n') :
    Text.linesFrom line (before ++ rest) = closed ++ Text.linesFrom last rest := by
  induction breaks with
  | done line => rfl
  | pair tail ih => rw [List.cons_append, List.cons_append, Text.linesFrom, ih, List.cons_append]
  | @single line part last closed c ends lone tail ih =>
    have lone' : c = '\r' → (part ++ rest).head? ≠ some '\n' := by
      intro carriage
      cases part with
      | nil => exact next
      | cons d part => exact lone carriage
    rw [List.cons_append, linesFrom_single ends lone', ih, List.cons_append]
  | plain inside tail ih => rw [List.cons_append, linesFrom_plain inside, ih]

theorem count_le (breaks : Breaks line before closed last) :
    before.count '\n' ≤ closed.length := by
  induction breaks with
  | done line => simp
  | pair tail ih => simpa using ih
  | single ends lone tail ih =>
    rw [List.count_cons, List.length_cons]
    split <;> omega
  | @plain line part last closed c inside tail ih =>
    rwa [List.count_cons_of_ne (ne_feed inside)]

theorem count_eq_iff (breaks : Breaks line before closed last) :
    before.count '\n' = closed.length ↔ FeedsOnly before := by
  induction breaks with
  | done line => simp [feedsOnly_nil]
  | pair tail ih => simp [feedsOnly_cons, ih]
  | @single line part last closed c ends lone tail ih =>
    have bound := tail.count_le
    by_cases feed : c = '\n'
    · simp [feedsOnly_cons, feed, ih]
    · have other : ¬ (c = '\r' ∧ part.head? = some '\n') := fun both => lone both.1 both.2
      rw [List.count_cons_of_ne feed, List.length_cons, feedsOnly_cons]
      simp [ends, feed, other]
      omega
  | @plain line part last closed c inside tail ih =>
    simp [List.count_cons_of_ne (ne_feed inside), feedsOnly_cons, inside, ih]

/-- Where only line feeds end lines, the line that is open behind a part is the one behind its last
line feed. -/
theorem last_eq (breaks : Breaks line before closed last) (feeds : FeedsOnly before)
    (plain : '\n' ∉ line) : last = (before.reverse ++ line).takeWhile (· != '\n') := by
  induction breaks with
  | done line => exact (takeWhile_of_noFeed plain).symm
  | @pair line part last closed tail ih =>
    have later := ih (feedsOnly_cons.1 (feedsOnly_cons.1 feeds).2).2 (by simp)
    rw [List.append_nil] at later
    simp only [List.reverse_cons, List.append_assoc, List.cons_append, List.nil_append,
      takeWhile_append_feed]
    exact later
  | @single line part last closed c ends lone tail ih =>
    obtain ⟨first, rest⟩ := feedsOnly_cons.1 feeds
    obtain rfl : c = '\n' := (first ends).resolve_right fun both => lone both.1 both.2
    have later := ih rest (by simp)
    rw [List.append_nil] at later
    simp only [List.reverse_cons, List.append_assoc, List.singleton_append, takeWhile_append_feed]
    exact later
  | @plain line part last closed c inside tail ih =>
    have later := ih (feedsOnly_cons.1 feeds).2 (by simp [plain, (ne_feed inside).symm])
    simpa using later

end Breaks

/-! ### The line shown -/

theorem text_of_locate? {source : List Char} {position : Nat} {location : Location}
    (filled : source ≠ []) (located : locate? source position = some location) :
    (Text.lines source)[location.line - 1]? = some location.text.toList := by
  obtain ⟨text, found, rfl⟩ := Option.map_eq_some_iff.1 located
  rw [lineText?, if_neg (by simpa using filled)] at found
  obtain ⟨line, same, rfl⟩ := Option.map_eq_some_iff.1 found
  rw [same, String.toList_ofList]

section

variable {before rest : List Char} {location : Location}

theorem showsMarker_of_feedsOnly (feeds : FeedsOnly before)
    (located : locate? (before ++ '\\' :: '(' :: rest) before.length = some location) :
    ShowsMarker location.text.toList location.column := by
  obtain ⟨closed, last, breaks⟩ := exists_breaks [] before
  obtain ⟨line, column⟩ := line_column_of_locate? located
  rw [List.take_left] at line column
  have shown := text_of_locate? (by simp) located
  have opened := breaks.last_eq feeds (by simp)
  -- The open line goes on with the marker.
  obtain ⟨more, others, own⟩ := exists_linesFrom (List.cons_ne_nil '(' ('\\' :: last)) rest
  rw [Text.lines, breaks.linesFrom_append (by simp), linesFrom_plain (by decide),
    linesFrom_plain (by decide), own, line, breaks.count_eq_iff.2 feeds, Nat.add_sub_cancel,
    List.getElem?_append_right (Nat.le_refl _), Nat.sub_self, List.getElem?_cons_zero,
    Option.some.injEq] at shown
  have place : location.column - 1 = last.reverse.length := by
    rw [column, lineStart, opened, List.append_nil]
    have shorter := (List.takeWhile_sublist (l := before.reverse) (· != '\n')).length_le
    simp only [List.length_reverse] at shorter ⊢
    omega
  rw [ShowsMarker, ← shown, place]
  simp

theorem text_of_not_feedsOnly (other : ¬ FeedsOnly before)
    (located : locate? (before ++ '\\' :: '(' :: rest) before.length = some location) :
    (Text.lines before)[location.line - 1]? = some location.text.toList := by
  obtain ⟨closed, last, breaks⟩ := exists_breaks [] before
  obtain ⟨line, -⟩ := line_column_of_locate? located
  rw [List.take_left] at line
  have shown := text_of_locate? (by simp) located
  have fewer : location.line - 1 < closed.length := by
    have bound := breaks.count_le
    have unequal := mt breaks.count_eq_iff.1 other
    omega
  have ended : Text.linesFrom [] (before ++ []) = closed ++ Text.linesFrom last [] :=
    breaks.linesFrom_append (by simp)
  rw [List.append_nil] at ended
  rw [Text.lines, breaks.linesFrom_append (by simp), List.getElem?_append_left fewer] at shown
  rw [Text.lines, ended, List.getElem?_append_left fewer, shown]

end

/-- The line shown for a malformed splice has the marker in the column told exactly if only line
feeds end the lines before the marker (behind a carriage return or not), or if the line with that
number ends before the marker and has another marker in that column. -/
theorem marker_is_shown_iff {source : List Char} {reason : SpliceReason} {position : Nat}
    {location : Location}
    (failed : ofSource? source = .error (.malformedTemplate reason position location)) :
    ShowsMarker location.text.toList location.column ↔
      FeedsOnly (source.take position) ∨
        ∃ earlier, (Text.lines (source.take position))[location.line - 1]? = some earlier ∧
          ShowsMarker earlier location.column := by
  obtain ⟨scanned, located⟩ := ofSource?_eq_malformed_iff.1 failed
  obtain ⟨before, rest, segments, rfl, rfl, -, -⟩ := exists_marker_of_malformed scanned
  rw [List.take_left]
  by_cases feeds : FeedsOnly before
  · exact iff_of_true (showsMarker_of_feedsOnly feeds located) (.inl feeds)
  · have further := text_of_not_feedsOnly feeds located
    constructor
    · intro shows
      exact .inr ⟨_, further, shows⟩
    · rintro (impossible | ⟨earlier, found, shows⟩)
      · exact absurd impossible feeds
      · rw [further] at found
        cases found
        exact shows

/-- A vertical tab ends a line too, so the line shown for the second marker is that of the first. -/
theorem marker_is_shown_iff_vertical_tab :
    ofSource? "a\x0b\\(1)\n\\()".toList =
        .error (.malformedTemplate .empty 7 ⟨2, 1, "\\(1)"⟩) ∧
      (ShowsMarker "\\(1)".toList 1 ↔
        FeedsOnly ("a\x0b\\(1)\n\\()".toList.take 7) ∨
          ∃ earlier, (Text.lines ("a\x0b\\(1)\n\\()".toList.take 7))[1]? = some earlier ∧
            ShowsMarker earlier 1) := by
  obtain ⟨segments, scanned⟩ :=
    exists_eq_ok (x := scan "a\x0b\\(1)\n\\".toList) (by decide +kernel)
  have failed : scan "a\x0b\\(1)\n\\()".toList = .error (.malformed .empty 7) :=
    scan_eq_error_iff.2 ⟨_, [')'], segments, by rfl, by decide, scanned, by rfl⟩
  have located : locate? "a\x0b\\(1)\n\\()".toList 7 = some ⟨2, 1, "\\(1)"⟩ := by
    decide +kernel
  have reported := ofSource?_eq_malformed_iff.2 ⟨failed, located⟩
  exact ⟨reported, marker_is_shown_iff reported⟩

/-- A form feed before a malformed splice makes the line shown end before the marker. -/
theorem form_feed_hides_marker :
    ofSource? "a\x0c\\()".toList = .error (.malformedTemplate .empty 2 ⟨1, 3, "a"⟩) ∧
      ¬ ShowsMarker "a".toList 3 := by
  have failed : scan "a\x0c\\()".toList = .error (.malformed .empty 2) := by rfl
  have located : locate? "a\x0c\\()".toList 2 = some ⟨1, 3, "a"⟩ := by decide +kernel
  exact ⟨ofSource?_eq_malformed_iff.2 ⟨failed, located⟩, by decide⟩

end TypstMarkup.Template
