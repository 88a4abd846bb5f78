import TypstMarkup.Template.Scan
import TypstMarkup.Proofs.Template.Enclosed
import TypstMarkup.Proofs.Success

/-!
Divisions of a source as a relation: one constructor for each way in which scanning goes on after a
run of backslashes. A whole splice is one step here, so that no proof has to follow the characters
that are skipped. The relation and the scanner agree on every source that can be divided.
-/
namespace TypstMarkup.Template

/-! ### Literal text in front of segments -/

@[simp] theorem prependText_nil (segments : List Segment) : prependText [] segments = segments := by
  simp [prependText]

theorem prependText_append (before text : List Char) (segments : List Segment) :
    prependText (before ++ text) segments = prependText before (prependText text segments) := by
  cases before with
  | nil => simp
  | cons c before =>
    cases text with
    | nil => simp
    | cons d text =>
      cases segments with
      | nil => simp [prependText]
      | cons first rest => cases first <;> simp [prependText]

theorem prependText_append_cons (before : List Char) (c : Char) (text : List Char)
    (segments : List Segment) :
    prependText (before ++ c :: text) segments =
      prependText (before ++ [c]) (prependText text segments) := by
  rw [← prependText_append, List.append_assoc, List.singleton_append]

/-- Literal text in front of segments adds no splice. -/
@[simp] theorem splices_prependText (text : List Char) (segments : List Segment) :
    splices (prependText text segments) = splices segments := by
  match text, segments with
  | [], _ | _ :: _, [] | _ :: _, .literal _ :: _ | _ :: _, .splice _ :: _ =>
    simp [prependText, splices]

/-! ### Divisions -/

/-- What can be read from the contents of a splice does not depend on where the splice stands. -/
theorem ofContents_eq_ok_iff {contents : List Char} {position : Nat} {s : Splice} :
    Splice.ofContents contents position = .ok s ↔
      contents.all Text.isBlank = false ∧
        Expression.parse? (spliceSource contents) = some s.call ∧ hasOneValue s.call = true ∧
        Expression.objection? s.call = none ∧ s.contents = contents ∧ s.position = position := by
  obtain ⟨text, place, call⟩ := s
  unfold Splice.ofContents
  constructor
  · intro read
    split at read
    · cases read
    rename_i blank
    split at read
    · cases read
    rename_i parsed
    split at read
    · rename_i oneValue
      split at read
      · cases read
      · rename_i accepted
        cases read
        exact ⟨by simpa using blank, parsed, oneValue, accepted, rfl, rfl⟩
    · cases read
  · rintro ⟨blank, parsed, oneValue, accepted, rfl, rfl⟩
    simp only at parsed oneValue accepted
    simp [blank, parsed, oneValue, accepted]

/-- Divisions of a source from a position on, where `run` backslashes have just been read. -/
inductive Divided : Nat → Nat → List Char → List Segment → Prop where
  | done (position run : Nat) : Divided position run [] (prependText (backslashes run) [])
  | backslash {position run : Nat} {rest : List Char} {segments : List Segment}
      (tail : Divided (position + 1) (run + 1) rest segments) :
      Divided position run ('\\' :: rest) segments
  | plain {position run : Nat} {c : Char} {rest : List Char} {segments : List Segment}
      (noSlash : c ≠ '\\') (noMarker : c = '(' → run = 0)
      (tail : Divided (position + 1) 0 rest segments) :
      Divided position run (c :: rest) (prependText (backslashes run ++ [c]) segments)
  | marker {position half : Nat} {rest : List Char} {segments : List Segment}
      (tail : Divided (position + 1) 0 rest segments) :
      Divided position (2 * (half + 1)) ('(' :: rest)
        (prependText (backslashes (half + 1) ++ ['(']) segments)
  | splice {position half : Nat} {s : Splice} {rest : List Char} {segments : List Segment}
      (enclosed : Enclosed 0 .code s.contents)
      (read : Splice.ofContents s.contents (position - 1) = .ok s)
      (tail : Divided (position + s.contents.length + 2) 0 rest segments) :
      Divided position (2 * half + 1) ('(' :: (s.contents ++ ')' :: rest))
        (prependText (backslashes half) (.splice s :: segments))

/-- Skipped characters are passed over. -/
theorem scanFrom_skip (position : Nat) (skipped rest : List Char) :
    scanFrom position 0 skipped.length (skipped ++ rest) =
      scanFrom (position + skipped.length) 0 0 rest := by
  induction skipped generalizing position with
  | nil => rfl
  | cons c skipped ih =>
    rw [List.length_cons, List.cons_append, scanFrom, ih, Nat.add_assoc, Nat.add_comm 1]

theorem scanFrom_of_divided {position run : Nat} {source : List Char} {segments : List Segment}
    (divided : Divided position run source segments) :
    scanFrom position run 0 source = .ok segments := by
  induction divided with
  | done position run => rfl
  | backslash tail ih => rw [scanFrom, if_pos rfl, ih]
  | @plain position run c rest segments noSlash noMarker tail ih =>
    have literal : ¬ (c = '(' ∧ 0 < run) := fun both => by
      have none := noMarker both.1
      omega
    rw [scanFrom, if_neg noSlash, if_neg literal, ih]
    rfl
  | @marker position half rest segments tail ih =>
    have even : 2 * (half + 1) % 2 = 0 := by omega
    have fewer : (2 * (half + 1) - 1) / 2 = half := by omega
    rw [scanFrom, if_neg (by decide), if_pos ⟨rfl, by omega⟩]
    simp only [even, fewer, ↓reduceIte, ih]
    rw [backslashes, backslashes, List.replicate_succ', List.append_assoc]
    rfl
  | @splice position half s rest segments enclosed read tail ih =>
    have odd : ¬ (2 * half + 1) % 2 = 0 := by omega
    have halved : (2 * half + 1 - 1) / 2 = half := by omega
    have found : closing (s.contents ++ ')' :: rest) = .ok (s.contents, rest) :=
      closing_eq_ok_iff.2 ⟨rfl, enclosed⟩
    have next : scanFrom (position + 1) 0 (s.contents.length + 1) (s.contents ++ ')' :: rest) =
        .ok segments := by
      have skip := scanFrom_skip (position + 1) (s.contents ++ [')']) rest
      rw [List.length_append, List.append_assoc] at skip
      rw [← ih]
      exact skip.trans (congrArg (scanFrom · 0 0 rest) (by simp; omega))
    rw [scanFrom, if_neg (by decide), if_pos ⟨rfl, by omega⟩]
    simp only [odd, halved, ↓reduceIte, found, read, next]
    rfl

/-- What the scanner divides is divided so, the characters it was to skip apart. -/
theorem divided_of_scanFrom {position run skip : Nat} {source : List Char}
    {segments : List Segment} (scanned : scanFrom position run skip source = .ok segments)
    (bound : skip ≤ source.length) (idle : 0 < skip → run = 0) :
    Divided (position + skip) run (source.drop skip) segments := by
  fun_induction scanFrom position run skip source generalizing segments
  case case1 position run skip =>
    cases scanned
    rw [List.drop_nil]
    exact .done _ run
  case case2 position run skip c rest ih =>
    have tail := ih scanned (by simpa using bound) (fun _ => rfl)
    rw [idle (Nat.succ_pos skip), Nat.succ_eq_add_one, ← Nat.add_assoc, Nat.add_right_comm]
    exact tail
  case case3 position run rest ih =>
    exact .backslash (ih scanned (Nat.zero_le _) (fun impossible => absurd impossible (by omega)))
  case case4 position run c rest noSlash marker before even ih =>
    obtain ⟨rfl, some⟩ := marker
    obtain ⟨tail, scannedTail, rfl⟩ := map_eq_ok_iff.1 scanned
    obtain ⟨half, rfl⟩ : ∃ half, run = 2 * (half + 1) := ⟨run / 2 - 1, by omega⟩
    have fewer : (2 * (half + 1) - 1) / 2 = half := by omega
    have text : before ++ ['\\', '('] = backslashes (half + 1) ++ ['('] := by
      simp [before, fewer, backslashes, List.replicate_succ']
    rw [text]
    exact .marker (ih scannedTail (Nat.zero_le _) (fun _ => rfl))
  case case5 => cases scanned
  case case6 position run c rest noSlash marker before odd contents after found ih =>
    obtain ⟨rfl, -⟩ := marker
    obtain ⟨s, read, scanned⟩ := bind_eq_ok_iff.1 scanned
    obtain ⟨tail, scannedTail, last⟩ := bind_eq_ok_iff.1 scanned
    cases last
    obtain ⟨rfl, enclosed⟩ := closing_eq_ok_iff.1 found
    obtain ⟨-, -, -, -, rfl, -⟩ := ofContents_eq_ok_iff.1 read
    obtain ⟨half, rfl⟩ : ∃ half, run = 2 * half + 1 := ⟨run / 2, by omega⟩
    have halved : (2 * half + 1 - 1) / 2 = half := by omega
    have divided := ih scannedTail (by simp) (fun _ => rfl)
    have place : position + 1 + (s.contents.length + 1) = position + s.contents.length + 2 := by
      omega
    have behind : (s.contents ++ ')' :: after).drop (s.contents.length + 1) = after := by
      simp
    rw [place, behind] at divided
    simp only [before, halved]
    exact .splice enclosed read divided
  case case7 position run c rest noSlash noMarker ih =>
    obtain ⟨tail, scannedTail, rfl⟩ := map_eq_ok_iff.1 scanned
    have free : c = '(' → run = 0 := fun same =>
      Nat.eq_zero_of_not_pos fun some => noMarker ⟨same, some⟩
    exact .plain noSlash free (ih scannedTail (Nat.zero_le _) (fun _ => rfl))

/-- The divisions of a source are the ones that scanning finds. -/
theorem scan_eq_ok_iff {source : List Char} {segments : List Segment} :
    scan source = .ok segments ↔ Divided 0 0 source segments := by
  constructor
  · intro scanned
    exact divided_of_scanFrom scanned (Nat.zero_le _) (fun _ => rfl)
  · exact scanFrom_of_divided

/-- Every splice of a division is enclosed, and read from its contents. -/
theorem read_of_divided {position run : Nat} {source : List Char} {segments : List Segment}
    (divided : Divided position run source segments) {s : Splice} (member : s ∈ splices segments) :
    Enclosed 0 .code s.contents ∧ Splice.ofContents s.contents s.position = .ok s := by
  induction divided with
  | done position run =>
    rw [splices_prependText] at member
    simp [splices] at member
  | backslash tail ih => exact ih member
  | plain noSlash noMarker tail ih | marker tail ih =>
    rw [splices_prependText] at member
    exact ih member
  | splice enclosed read tail ih =>
    rw [splices_prependText] at member
    rcases List.mem_cons.1 member with rfl | later
    · refine ⟨enclosed, ?_⟩
      rwa [(ofContents_eq_ok_iff.1 read).2.2.2.2.2]
    · exact ih later

end TypstMarkup.Template
