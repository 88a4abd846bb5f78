import Mathlib.Data.List.Induction
import Mathlib.Data.List.TakeWhile
import TypstMarkup.Proofs.Template.Malformed

/-!
Positions told by line and column. Lines are counted by line feeds and columns from the last of
them, so line and column lead back to the position: behind the lines before it, each with its line
feed. Where the text of a line is taken from does not matter here.
-/
namespace TypstMarkup.Template

/-- The lines of a text that line feeds end, and the open line behind them. -/
structure FeedLines (text : List Char) (closed : List (List Char)) (opened : List Char) : Prop where
  joined : text = closed.flatMap (· ++ ['\n']) ++ opened
  closedPlain : ∀ line ∈ closed, '\n' ∉ line
  openedPlain : '\n' ∉ opened

theorem exists_feedLines (text : List Char) : ∃ closed opened, FeedLines text closed opened := by
  induction text using List.reverseRecOn with
  | nil => exact ⟨[], [], rfl, by simp, by simp⟩
  | append_singleton text c ih =>
    obtain ⟨closed, opened, joined, closedPlain, openedPlain⟩ := ih
    by_cases feed : c = '\n'
    · refine ⟨closed ++ [opened], [], ?_, ?_, by simp⟩
      · simp [joined, feed]
      · intro line member
        rcases List.mem_append.1 member with before | last
        · exact closedPlain line before
        · rw [List.mem_singleton.1 last]
          exact openedPlain
    · refine ⟨closed, opened ++ [c], ?_, closedPlain, ?_⟩
      · simp [joined]
      · simp [openedPlain, Ne.symm feed]

theorem takeWhile_append_feed (text rest : List Char) :
    (text ++ '\n' :: rest).takeWhile (· != '\n') = text.takeWhile (· != '\n') := by
  induction text with
  | nil => rfl
  | cons c text ih => simp only [List.cons_append, List.takeWhile_cons, ih]

theorem takeWhile_of_noFeed {text : List Char} (plain : '\n' ∉ text) :
    text.takeWhile (· != '\n') = text := by
  rw [List.takeWhile_eq_self_iff]
  intro c member
  rw [bne_iff_ne]
  rintro rfl
  exact plain member

namespace FeedLines

variable {text opened : List Char} {closed : List (List Char)}

theorem count_eq (lines : FeedLines text closed opened) : text.count '\n' = closed.length := by
  obtain ⟨rfl, closedPlain, openedPlain⟩ := lines
  rw [List.count_append, List.count_eq_zero.2 openedPlain, Nat.add_zero]
  induction closed with
  | nil => rfl
  | cons line closed ih =>
    rw [List.forall_mem_cons] at closedPlain
    simp [List.count_eq_zero.2 closedPlain.1, ih closedPlain.2]

theorem lineStart_eq (lines : FeedLines text closed opened) :
    lineStart text = (closed.flatMap (· ++ ['\n'])).length := by
  obtain ⟨rfl, -, openedPlain⟩ := lines
  have plain : '\n' ∉ opened.reverse := by simpa using openedPlain
  have kept := takeWhile_of_noFeed plain
  have behind : ((closed.flatMap (· ++ ['\n']) ++ opened).reverse.takeWhile (· != '\n')) =
      opened.reverse := by
    cases closed using List.reverseRecOn with
    | nil => simpa using kept
    | append_singleton closed line => simp [takeWhile_append_feed, kept]
  rw [lineStart, behind]
  simp

theorem splitOn_append (lines : FeedLines text closed opened) (rest : List Char) :
    (text ++ rest).splitOn '\n' = closed ++ (opened ++ rest).splitOn '\n' := by
  obtain ⟨rfl, closedPlain, -⟩ := lines
  induction closed with
  | nil => rfl
  | cons line closed ih =>
    rw [List.forall_mem_cons] at closedPlain
    have first := List.splitOn_append_cons_self_of_not_mem closedPlain.1
      (closed.flatMap (· ++ ['\n']) ++ opened ++ rest)
    rw [ih closedPlain.2] at first
    simpa using first

end FeedLines

/-- Where a line starts, lines counted from one: behind the lines before it and their line
feeds. -/
def lineOffset (source : List Char) (line : Nat) : Nat :=
  (((source.splitOn '\n').take (line - 1)).flatMap (· ++ ['\n'])).length

theorem lineOffset_count (before rest : List Char) :
    lineOffset (before ++ rest) (before.count '\n' + 1) = lineStart before := by
  obtain ⟨closed, opened, lines⟩ := exists_feedLines before
  rw [lineOffset, Nat.add_sub_cancel, lines.count_eq, lines.splitOn_append rest, List.take_left,
    lines.lineStart_eq]

theorem line_column_of_locate? {source : List Char} {position : Nat} {location : Location}
    (located : locate? source position = some location) :
    location.line = (source.take position).count '\n' + 1 ∧
      location.column = position - lineStart (source.take position) + 1 := by
  obtain ⟨text, -, rfl⟩ := Option.map_eq_some_iff.1 located
  exact ⟨rfl, rfl⟩

/-- Line and column lead back to the position. -/
theorem lineOffset_add_column {source : List Char} {position : Nat} {location : Location}
    (located : locate? source position = some location) :
    lineOffset source location.line + (location.column - 1) = position := by
  obtain ⟨line, column⟩ := line_column_of_locate? located
  have start := lineOffset_count (source.take position) (source.drop position)
  have bound : lineStart (source.take position) ≤ position := by
    have shorter := List.length_take_le position source
    rw [lineStart]
    omega
  rw [List.take_append_drop] at start
  rw [line, column, start]
  omega

/-- A part without line feeds belongs to the first line of the text it begins. -/
theorem exists_splitOn_append {part : List Char} (plain : '\n' ∉ part) (rest : List Char) :
    ∃ more others, (part ++ rest).splitOn '\n' = (part ++ more) :: others := by
  by_cases feed : '\n' ∈ rest
  · obtain ⟨more, behind, rfl, plainMore⟩ := List.eq_append_cons_of_mem feed
    have noFeed : '\n' ∉ part ++ more := by simp [plain, plainMore]
    refine ⟨more, behind.splitOn '\n', ?_⟩
    rw [← List.append_assoc]
    exact List.splitOn_append_cons_self_of_not_mem noFeed behind
  · have noFeed : '\n' ∉ part ++ rest := by simp [plain, feed]
    exact ⟨rest, [], List.splitOn_eq_singleton noFeed⟩

/-- The character at a position stands on the line told, in the column told. -/
theorem getElem?_of_locate? {source : List Char} {position : Nat} {location : Location} {c : Char}
    (located : locate? source position = some location) (found : source[position]? = some c)
    (noFeed : c ≠ '\n') :
    ∃ text, (source.splitOn '\n')[location.line - 1]? = some text ∧
      text[location.column - 1]? = some c := by
  obtain ⟨line, column⟩ := line_column_of_locate? located
  obtain ⟨within, same⟩ := List.getElem?_eq_some_iff.1 found
  obtain ⟨closed, opened, lines⟩ := exists_feedLines (source.take position)
  have size : (closed.flatMap (· ++ ['\n'])).length + opened.length = position := by
    rw [← List.length_append, ← lines.joined, List.length_take_of_le (Nat.le_of_lt within)]
  have plain : '\n' ∉ opened ++ [c] := by simp [lines.openedPlain, Ne.symm noFeed]
  obtain ⟨more, others, own⟩ := exists_splitOn_append plain (source.drop (position + 1))
  have split := lines.splitOn_append (source.drop position)
  rw [List.take_append_drop, List.drop_eq_getElem_cons within, same, List.append_cons, own] at split
  refine ⟨opened ++ [c] ++ more, ?_, ?_⟩
  · rw [line, split, lines.count_eq]
    simp
  · have place : location.column - 1 = opened.length := by
      rw [column, lines.lineStart_eq]
      omega
    rw [place]
    simp

/-- A malformed splice can be reported at every backslash of a source, whatever the reason is. The
line and the column that are told lead to the backslash, so two of them are never told alike. -/
theorem line_and_column_determine_position {source : List Char} {position : Nat}
    (slash : source[position]? = some '\\') (reason : SpliceReason) :
    ∃ location,
      Fault.ofTemplate reason source position = .malformedTemplate reason position location ∧
      1 ≤ location.line ∧ 1 ≤ location.column ∧
      lineOffset source location.line + (location.column - 1) = position ∧
      (∃ text, (source.splitOn '\n')[location.line - 1]? = some text ∧
        text[location.column - 1]? = some '\\') ∧
      ∀ other, source[other]? = some '\\' → other ≠ position → ∀ reason' location',
        Fault.ofTemplate reason' source other = .malformedTemplate reason' other location' →
          (location'.line, location'.column) ≠ (location.line, location.column) := by
  have located := exists_location (List.getElem?_eq_some_iff.1 slash).1
  obtain ⟨location, located⟩ := located
  obtain ⟨line, column⟩ := line_column_of_locate? located
  refine ⟨location, by rw [Fault.ofTemplate, located], by omega, by omega,
    lineOffset_add_column located, getElem?_of_locate? located slash (by decide), ?_⟩
  intro other slash' apart reason' location' reported same
  obtain ⟨found, located'⟩ := exists_location (List.getElem?_eq_some_iff.1 slash').1
  rw [Fault.ofTemplate, located'] at reported
  cases reported
  obtain ⟨sameLine, sameColumn⟩ := Prod.mk.inj same
  apply apart
  rw [← lineOffset_add_column located', ← lineOffset_add_column located, sameLine, sameColumn]

/-- A form feed ends no line here, so the second marker stands on the second line. -/
theorem line_and_column_determine_position_form_feed :
    "a\\(\x0cb\n \\(".toList[7]? = some '\\' ∧
      ∃ location, Fault.ofTemplate .empty "a\\(\x0cb\n \\(".toList 7 =
          .malformedTemplate .empty 7 location ∧
        lineOffset "a\\(\x0cb\n \\(".toList location.line + (location.column - 1) = 7 ∧
        ∀ location', Fault.ofTemplate .empty "a\\(\x0cb\n \\(".toList 1 =
          .malformedTemplate .empty 1 location' →
            (location'.line, location'.column) ≠ (location.line, location.column) := by
  have slash : "a\\(\x0cb\n \\(".toList[7]? = some '\\' := rfl
  obtain ⟨location, reported, -, -, place, -, apart⟩ :=
    line_and_column_determine_position slash .empty
  exact ⟨slash, location, reported, place, apart 1 rfl (by decide) .empty⟩

end TypstMarkup.Template
