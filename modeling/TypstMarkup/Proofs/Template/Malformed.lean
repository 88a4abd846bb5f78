import TypstMarkup.Proofs.Template.Divided
import TypstMarkup.Proofs.Text.Run

/-!
Sources that cannot be divided. The scanner ends at the first splice that is at fault, and the text
before it can be divided. The line of the marker always has a text, so every malformed splice is
reported with its place. What is reported otherwise are contents that can be read as one value with
settings and that there is an objection to nevertheless.
-/
namespace TypstMarkup.Template
open Expression (Objection parse? objection?)
open Text (trailingRun)

/-! ### The first fault -/

/-- What is wrong with a splice, for the position of its marker and the text behind its bracket. -/
def spliceFault? (position : Nat) (source : List Char) : Option ScanFault :=
  match closing source with
  | .error reason => some (.malformed reason position)
  | .ok (contents, _) =>
    match Splice.ofContents contents position with
    | .error f => some f
    | .ok _ => none

/-- Whether a character is counted to the position or to the text before the bracket is the same. -/
theorem spliceFault?_cons (position : Nat) (c : Char) (before rest : List Char) :
    spliceFault? (position + (c :: before).length - 1) rest =
      spliceFault? (position + 1 + before.length - 1) rest := by
  rw [List.length_cons, Nat.add_comm before.length, ← Nat.add_assoc]

theorem spliceFault?_splice (position : Nat) (contents before rest : List Char) :
    spliceFault? (position + ('(' :: (contents ++ ')' :: before)).length - 1) rest =
      spliceFault? (position + contents.length + 2 + before.length - 1) rest := by
  congr 1
  simp
  omega

theorem trailingRun_backslashes (run : Nat) : trailingRun (backslashes run) = run := by
  have counted := Text.trailingRun_append_replicate [] run
  simpa [backslashes] using counted

/-- A fault behind the bracket of a marker, up to which the text is divided. -/
def FaultBehind (position run : Nat) (source : List Char) (f : ScanFault) : Prop :=
  ∃ before rest segments, source = before ++ '(' :: rest ∧
    trailingRun (backslashes run ++ before) % 2 = 1 ∧ Divided position run before segments ∧
      spliceFault? (position + before.length - 1) rest = some f

namespace FaultBehind
variable {position run half : Nat} {source rest : List Char} {f : ScanFault}

theorem here (odd : run % 2 = 1) (fault : spliceFault? (position - 1) rest = some f) :
    FaultBehind position run ('(' :: rest) f := by
  refine ⟨[], rest, _, rfl, ?_, .done _ _, fault⟩
  rwa [List.append_nil, trailingRun_backslashes]

theorem backslash (later : FaultBehind (position + 1) (run + 1) source f) :
    FaultBehind position run ('\\' :: source) f := by
  obtain ⟨before, behind, segments, rfl, odd, divided, fault⟩ := later
  refine ⟨'\\' :: before, behind, segments, rfl, ?_, .backslash divided, ?_⟩
  · rwa [backslashes, List.replicate_succ', List.append_assoc] at odd
  · rwa [spliceFault?_cons]

theorem plain {c : Char} (noSlash : c ≠ '\\') (noMarker : c = '(' → run = 0)
    (later : FaultBehind (position + 1) 0 source f) : FaultBehind position run (c :: source) f := by
  obtain ⟨before, behind, segments, rfl, odd, divided, fault⟩ := later
  refine ⟨c :: before, behind, _, rfl, ?_, .plain noSlash noMarker divided, ?_⟩
  · rwa [Text.trailingRun_append_cons _ noSlash]
  · rwa [spliceFault?_cons]

theorem marker (later : FaultBehind (position + 1) 0 source f) :
    FaultBehind position (2 * (half + 1)) ('(' :: source) f := by
  obtain ⟨before, behind, segments, rfl, odd, divided, fault⟩ := later
  refine ⟨'(' :: before, behind, _, rfl, ?_, .marker divided, ?_⟩
  · rwa [Text.trailingRun_append_cons _ (by decide)]
  · rwa [spliceFault?_cons]

theorem splice {s : Splice} (enclosed : Enclosed 0 .code s.contents)
    (read : Splice.ofContents s.contents (position - 1) = .ok s)
    (later : FaultBehind (position + s.contents.length + 2) 0 source f) :
    FaultBehind position (2 * half + 1) ('(' :: (s.contents ++ ')' :: source)) f := by
  obtain ⟨before, behind, segments, rfl, odd, divided, fault⟩ := later
  refine ⟨'(' :: (s.contents ++ ')' :: before), behind, _, by simp, ?_,
    .splice enclosed read divided, ?_⟩
  · rwa [Text.trailingRun_append_cons _ (by decide), Text.trailingRun_append_cons _ (by decide)]
  · rwa [spliceFault?_splice]

end FaultBehind

/-- Where scanning fails, it has come to a splice at fault. -/
theorem faultBehind_of_scanFrom {position run skip : Nat} {source : List Char} {f : ScanFault}
    (failed : scanFrom position run skip source = .error f) (bound : skip ≤ source.length)
    (idle : 0 < skip → run = 0) : FaultBehind (position + skip) run (source.drop skip) f := by
  fun_induction scanFrom position run skip source
  case case1 => cases failed
  case case2 position run skip c rest ih =>
    have later := ih failed (by simpa using bound) (fun _ => rfl)
    rw [idle (Nat.succ_pos skip), Nat.succ_eq_add_one, ← Nat.add_assoc, Nat.add_right_comm]
    exact later
  case case3 position run rest ih =>
    exact .backslash (ih failed (Nat.zero_le _) fun impossible => absurd impossible (by omega))
  case case4 position run c rest noSlash marker _ even ih =>
    obtain ⟨rfl, filled⟩ := marker
    obtain ⟨half, rfl⟩ : ∃ half, run = 2 * (half + 1) := ⟨run / 2 - 1, by omega⟩
    exact .marker (ih (map_eq_error_iff.1 failed) (Nat.zero_le _) fun _ => rfl)
  case case5 position run c rest noSlash marker uneven reason found =>
    obtain ⟨rfl, filled⟩ := marker
    cases failed
    exact .here (by omega) (by simp [spliceFault?, found])
  case case6 position run c rest noSlash marker _ uneven contents after found ih =>
    obtain ⟨rfl, filled⟩ := marker
    rcases bind_eq_error_iff.1 failed with refused | ⟨s, read, failed⟩
    · exact .here (by omega) (by simp [spliceFault?, found, refused])
    rcases bind_eq_error_iff.1 failed with stopped | ⟨segments, -, made⟩
    · obtain ⟨rfl, enclosed⟩ := closing_eq_ok_iff.1 found
      obtain ⟨-, -, -, -, rfl, -⟩ := ofContents_eq_ok_iff.1 read
      obtain ⟨half, rfl⟩ : ∃ half, run = 2 * half + 1 := ⟨run / 2, by omega⟩
      have later := ih stopped (by simp) (fun _ => rfl)
      have left : (s.contents ++ ')' :: after).drop (s.contents.length + 1) = after := by simp
      have place : position + 1 + (s.contents.length + 1) = position + s.contents.length + 2 := by
        omega
      rw [left, place] at later
      exact .splice enclosed read later
    · cases made
  case case7 position run c rest noSlash noMarker ih =>
    refine .plain noSlash (fun bracket => ?_)
      (ih (map_eq_error_iff.1 failed) (Nat.zero_le _) fun _ => rfl)
    exact Nat.eq_zero_of_not_pos fun some => noMarker ⟨bracket, some⟩

/-- A fault behind a marker ends every scan that comes to it, whatever stands behind the splice. -/
theorem scanFrom_of_fault {position run : Nat} {before rest : List Char} {segments : List Segment}
    {f : ScanFault} (divided : Divided position run before segments)
    (odd : trailingRun (backslashes run ++ before) % 2 = 1)
    (fault : spliceFault? (position + before.length - 1) rest = some f) :
    scanFrom position run 0 (before ++ '(' :: rest) = .error f := by
  induction divided with
  | done position run =>
    rw [List.append_nil, trailingRun_backslashes] at odd
    have uneven : ¬ run % 2 = 0 := by omega
    rw [List.nil_append, scanFrom, if_neg (by decide), if_pos ⟨rfl, by omega⟩]
    simp only [uneven, ↓reduceIte]
    rw [List.length_nil, Nat.add_zero, spliceFault?] at fault
    cases found : closing rest with
    | error reason =>
      rw [found] at fault
      cases fault
      rfl
    | ok pair =>
      rw [found] at fault
      dsimp only at fault ⊢
      cases read : Splice.ofContents pair.1 (position - 1) with
      | error refused =>
        rw [read] at fault
        cases fault
        rfl
      | ok s =>
        rw [read] at fault
        cases fault
  | @backslash position run tail segments divided ih =>
    rw [List.cons_append, scanFrom, if_pos rfl]
    refine ih ?_ ((spliceFault?_cons _ _ _ _).symm.trans fault)
    rw [backslashes, List.replicate_succ', List.append_assoc]
    exact odd
  | @plain position run c tail segments noSlash noMarker divided ih =>
    have literal : ¬ (c = '(' ∧ 0 < run) := fun both => by
      have none := noMarker both.1
      omega
    rw [Text.trailingRun_append_cons _ noSlash] at odd
    rw [spliceFault?_cons] at fault
    rw [List.cons_append, scanFrom, if_neg noSlash, if_neg literal, ih odd fault]
    rfl
  | @marker position half tail segments divided ih =>
    have even : 2 * (half + 1) % 2 = 0 := by omega
    rw [Text.trailingRun_append_cons _ (by decide)] at odd
    rw [spliceFault?_cons] at fault
    rw [List.cons_append, scanFrom, if_neg (by decide), if_pos ⟨rfl, by omega⟩]
    simp only [even, ↓reduceIte]
    rw [ih odd fault]
    rfl
  | @splice position half s tail segments enclosed read divided ih =>
    have uneven : ¬ (2 * half + 1) % 2 = 0 := by omega
    rw [Text.trailingRun_append_cons _ (by decide),
      Text.trailingRun_append_cons _ (by decide)] at odd
    rw [spliceFault?_splice] at fault
    have found : closing (s.contents ++ ')' :: tail ++ '(' :: rest) =
        .ok (s.contents, tail ++ '(' :: rest) :=
      closing_eq_ok_iff.2 ⟨by simp, enclosed⟩
    have skip := scanFrom_skip (position + 1) (s.contents ++ [')']) (tail ++ '(' :: rest)
    have place :
        position + 1 + (s.contents ++ [')']).length = position + s.contents.length + 2 := by
      simp
      omega
    have next : scanFrom (position + 1) 0 (s.contents.length + 1)
        (s.contents ++ ')' :: tail ++ '(' :: rest) = .error f := by
      rw [place, ih odd fault] at skip
      simpa using skip
    rw [List.cons_append, scanFrom, if_neg (by decide), if_pos ⟨rfl, by omega⟩]
    simp only [uneven, ↓reduceIte, found, read, next]
    rfl

/-- Scanning fails exactly with the fault of the first splice at fault: what stands before it can be
divided. -/
theorem scan_eq_error_iff {source : List Char} {f : ScanFault} :
    scan source = .error f ↔
      ∃ before rest segments, source = before ++ '(' :: rest ∧ trailingRun before % 2 = 1 ∧
        scan before = .ok segments ∧ spliceFault? (before.length - 1) rest = some f := by
  constructor
  · intro failed
    obtain ⟨before, rest, segments, same, odd, divided, fault⟩ :=
      faultBehind_of_scanFrom failed (Nat.zero_le _) (fun _ => rfl)
    refine ⟨before, rest, segments, same, odd, scan_eq_ok_iff.2 divided, ?_⟩
    simpa using fault
  · rintro ⟨before, rest, segments, rfl, odd, scanned, fault⟩
    refine scanFrom_of_fault (scan_eq_ok_iff.1 scanned) odd ?_
    rwa [Nat.zero_add]

/-! ### Places of markers -/

theorem linesFrom_ne_nil {line source : List Char} (filled : line ≠ [] ∨ source ≠ []) :
    Text.linesFrom line source ≠ [] := by
  fun_induction Text.linesFrom line source with
  | case1 line empty =>
    rcases filled with filled | filled
    · exact absurd (List.isEmpty_iff.1 empty) filled
    · exact absurd rfl filled
  | case2 => simp
  | case3 => simp
  | case4 => simp
  | case5 line c rest _ _ ih => exact ih (.inl (List.cons_ne_nil c line))

/-- Every line feed ends a line, so there are more lines than line feeds before any character. -/
theorem count_lt_length_linesFrom (line before : List Char) {rest : List Char} (more : rest ≠ []) :
    before.count '\n' < (Text.linesFrom line (before ++ rest)).length := by
  generalize same : before ++ rest = source
  have filled : source ≠ [] := by simp [← same, more]
  fun_induction Text.linesFrom line source generalizing before with
  | case1 | case2 => exact absurd rfl filled
  | case3 line tail ih =>
    -- A carriage return and a line feed end one line, and a part may end between them.
    cases before with
    | nil => simp
    | cons d before =>
      obtain ⟨rfl, next⟩ := List.cons.inj same
      cases before with
      | nil => simp
      | cons e before =>
        obtain ⟨rfl, rfl⟩ := List.cons.inj next
        have later := ih before rfl (by simp [more])
        rw [List.count_cons_of_ne (by decide), List.count_cons_self, List.length_cons]
        omega
  | case4 line c tail _ ends ih =>
    cases before with
    | nil => simp
    | cons d before =>
      obtain ⟨rfl, rfl⟩ := List.cons.inj same
      have later := ih before rfl (by simp [more])
      rw [List.length_cons, List.count_cons]
      split <;> omega
  | case5 line c tail _ inside ih =>
    cases before with
    | nil => exact List.length_pos_iff.2 (linesFrom_ne_nil (.inl (List.cons_ne_nil c line)))
    | cons d before =>
      obtain ⟨rfl, rfl⟩ := List.cons.inj same
      have noFeed : d ≠ '\n' := by
        rintro rfl
        exact inside (by decide)
      rw [List.count_cons_of_ne noFeed]
      exact ih before rfl (by simp [more])

/-- A character of a source stands on a line that has a text. -/
theorem exists_location {source : List Char} {position : Nat} (within : position < source.length) :
    ∃ location, locate? source position = some location := by
  have filled : source.drop position ≠ [] := by simp [within]
  have counted := count_lt_length_linesFrom [] (source.take position) filled
  rw [List.take_append_drop] at counted
  have some : ∃ text, lineText? source ((source.take position).count '\n' + 1) = some text := by
    unfold lineText?
    split
    · exact ⟨_, rfl⟩
    · rw [Nat.add_sub_cancel, Text.lines, List.getElem?_eq_getElem counted]
      exact ⟨_, rfl⟩
  obtain ⟨text, found⟩ := some
  exact ⟨_, by simp only [locate?, found]; rfl⟩
/-! ### What failures there are -/

/-- Contents that can be read as one value with settings, and an objection to them with its line. -/
def Refused (contents : List Char) (objection : Objection) (line : Nat) : Prop :=
  contents.all Text.isBlank = false ∧ ∃ call, parse? (spliceSource contents) = some call ∧
    hasOneValue call = true ∧ objection? call = some (objection, line)

theorem ofContents_eq_refused_iff {contents : List Char} {position line : Nat}
    {objection : Objection} :
    Splice.ofContents contents position = .error (.refused objection line) ↔
      Refused contents objection line := by
  unfold Splice.ofContents Refused
  constructor
  · intro failed
    split at failed
    · cases failed
    rename_i filled
    split at failed
    · cases failed
    rename_i call parsed
    split at failed
    · rename_i oneValue
      split at failed
      · rename_i objected
        cases failed
        exact ⟨by simpa using filled, call, parsed, oneValue, objected⟩
      · cases failed
    · cases failed
  · rintro ⟨filled, call, parsed, oneValue, objected⟩
    simp [filled, parsed, oneValue, objected]

/-- A splice is malformed at the position of its marker, or its contents are refused. -/
theorem spliceFault?_cases {position : Nat} {source : List Char} {f : ScanFault}
    (fault : spliceFault? position source = some f) :
    (∃ reason, f = .malformed reason position) ∨
      ∃ contents rest objection line, source = contents ++ ')' :: rest ∧
        Enclosed 0 .code contents ∧ Refused contents objection line ∧
        f = .refused objection line := by
  unfold spliceFault? at fault
  split at fault
  · cases fault
    exact .inl ⟨_, rfl⟩
  rename_i contents rest found
  obtain ⟨rfl, enclosed⟩ := closing_eq_ok_iff.1 found
  split at fault
  · rename_i g failed
    cases fault
    cases f with
    | malformed reason place =>
      refine .inl ⟨reason, ?_⟩
      unfold Splice.ofContents at failed
      split at failed
      · cases failed; rfl
      split at failed
      · cases failed; rfl
      split at failed
      · split at failed <;> cases failed
      · cases failed; rfl
    | refused objection line =>
      exact .inr ⟨contents, rest, objection, line, rfl, enclosed,
        ofContents_eq_refused_iff.1 failed, rfl⟩
  · cases fault

/-- Contents are refused exactly behind the first marker whose splice is at fault, if they can be
read and there is an objection to them. -/
theorem scan_eq_refused_iff {source : List Char} {objection : Objection} {line : Nat} :
    scan source = .error (.refused objection line) ↔
      ∃ before contents rest segments, source = before ++ '(' :: (contents ++ ')' :: rest) ∧
        trailingRun before % 2 = 1 ∧ scan before = .ok segments ∧ Enclosed 0 .code contents ∧
        Refused contents objection line := by
  rw [scan_eq_error_iff]
  constructor
  · rintro ⟨before, behind, segments, rfl, odd, scanned, fault⟩
    obtain ⟨reason, impossible⟩ | ⟨contents, rest, _, _, rfl, enclosed, refused, same⟩ :=
      spliceFault?_cases fault
    · cases impossible
    · cases same
      exact ⟨before, contents, rest, segments, rfl, odd, scanned, enclosed, refused⟩
  · rintro ⟨before, contents, rest, segments, rfl, odd, scanned, enclosed, refused⟩
    refine ⟨before, _, segments, rfl, odd, scanned, ?_⟩
    have found : closing (contents ++ ')' :: rest) = .ok (contents, rest) :=
      closing_eq_ok_iff.2 ⟨rfl, enclosed⟩
    simp only [spliceFault?, found, ofContents_eq_refused_iff.2 refused]

/-- A malformed splice is reported at its marker. -/
theorem toFault_of_malformed {source : List Char} {reason : SpliceReason} {position : Nat}
    (failed : scan source = .error (.malformed reason position)) :
    ∃ location, locate? source position = some location ∧
      (ScanFault.malformed reason position).toFault source =
        .malformedTemplate reason position location := by
  obtain ⟨before, rest, segments, rfl, -, -, fault⟩ := scan_eq_error_iff.1 failed
  obtain ⟨reason', same⟩ | ⟨_, _, _, _, -, -, -, impossible⟩ := spliceFault?_cases fault
  · cases same
    have within : before.length - 1 < (before ++ '(' :: rest).length := by simp; omega
    obtain ⟨location, found⟩ := exists_location within
    exact ⟨location, found, by simp only [ScanFault.toFault, Fault.ofTemplate, found]⟩
  · cases impossible

/-- A template that cannot be divided is reported as malformed, with the place of a marker, except
that it is a plain error of syntax exactly if the first splice at fault can be read as one value
with settings and there is an objection to it. -/
theorem template_refused_iff (source : List Char) :
    (∀ f, ofSource? source = .error f →
      (∃ reason position location, scan source = .error (.malformed reason position) ∧
        locate? source position = some location ∧
        f = .malformedTemplate reason position location) ∨
      ∃ objection line, scan source = .error (.refused objection line) ∧
        f = .refusedSplice objection.message line) ∧
    ∀ objection line, scan source = .error (.refused objection line) ↔
      ∃ before contents rest segments, source = before ++ '(' :: (contents ++ ')' :: rest) ∧
        trailingRun before % 2 = 1 ∧ scan before = .ok segments ∧ Enclosed 0 .code contents ∧
        Refused contents objection line := by
  refine ⟨fun f failed => ?_, fun objection line => scan_eq_refused_iff⟩
  unfold ofSource? at failed
  split at failed
  · cases failed
  rename_i g scanned
  cases failed
  cases g with
  | malformed reason position =>
    obtain ⟨location, found, same⟩ := toFault_of_malformed scanned
    exact .inl ⟨reason, position, location, scanned, found, same⟩
  | refused objection line => exact .inr ⟨objection, line, scanned, rfl⟩

/-- The objection that the division of a source ends in, if any. -/
def refusal? (source : List Char) : Option (Objection × Nat) :=
  match scan source with
  | .error (.refused objection line) => some (objection, line)
  | _ => none

theorem refusal?_eq_some_iff {source : List Char} {objection : Objection} {line : Nat} :
    refusal? source = some (objection, line) ↔
      scan source = .error (.refused objection line) := by
  unfold refusal?
  split
  · rename_i o l failed
    rw [failed]
    simp
  · rename_i other
    refine iff_of_false (by simp) fun failed => other _ _ failed

/-- The second splice repeats a setting. -/
theorem template_refused_behind_splice :
    ∃ before contents rest segments,
      "\\(x) \\(y, a=1, a=2)".toList = before ++ '(' :: (contents ++ ')' :: rest) ∧
        trailingRun before % 2 = 1 ∧ scan before = .ok segments ∧ Enclosed 0 .code contents ∧
        Refused contents (.repeatedKeyword "a") 1 := by
  have refused : refusal? "\\(x) \\(y, a=1, a=2)".toList = some (.repeatedKeyword "a", 1) := by
    decide +kernel
  exact ((template_refused_iff _).2 (.repeatedKeyword "a") 1).1 (refusal?_eq_some_iff.1 refused)

/-- A repeated setting makes a template fail, and not as a malformed template. -/
theorem repeated_setting_is_not_malformed :
    ∃ f, ofSource? "\\(x, a=1, a=2)".toList = .error f ∧ f.category ≠ .malformedTemplate := by
  have refused : refusal? "\\(x, a=1, a=2)".toList = some (.repeatedKeyword "a", 1) := by
    decide +kernel
  refine ⟨.refusedSplice (Objection.message (.repeatedKeyword "a")) 1, ?_, by decide⟩
  rw [ofSource?, refusal?_eq_some_iff.1 refused]
  rfl

end TypstMarkup.Template
