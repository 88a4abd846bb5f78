import TypstMarkup.Proofs.Template.Malformed

/-!
Sources put together. Where the first source can be divided and does not end in a backslash, nothing
in it has an influence on what stands behind it: the second source is divided as if it stood alone,
at later positions, and fails as if it stood alone.
-/
namespace TypstMarkup.Template
open Text (trailingRun)

/-! ### Later positions -/

/-- The same splice in a source with `distance` characters more in front. -/
def Splice.moved (distance : Nat) (s : Splice) : Splice :=
  { s with position := distance + s.position }

def Segment.moved (distance : Nat) : Segment → Segment
  | .literal text => .literal text
  | .splice s => .splice (s.moved distance)

def ScanFault.moved (distance : Nat) : ScanFault → ScanFault
  | .malformed reason position => .malformed reason (distance + position)
  | .refused objection line => .refused objection line

theorem map_moved_prependText (distance : Nat) (text : List Char) (segments : List Segment) :
    (prependText text segments).map (Segment.moved distance) =
      prependText text (segments.map (Segment.moved distance)) := by
  match text, segments with
  | [], _ => rw [prependText_nil, prependText_nil]
  | _ :: _, [] | _ :: _, .literal _ :: _ | _ :: _, .splice _ :: _ => rfl

/-- What is read from contents does not depend on where they stand, and neither does what is wrong
with them. -/
theorem ofContents_moved (contents : List Char) (position distance : Nat) :
    Splice.ofContents contents (distance + position) =
      match Splice.ofContents contents position with
      | .ok s => .ok (s.moved distance)
      | .error f => .error (f.moved distance) := by
  unfold Splice.ofContents
  cases contents.all Text.isBlank with
  | true => rfl
  | false =>
    cases Expression.parse? (spliceSource contents) with
    | none => rfl
    | some call =>
      dsimp only
      cases hasOneValue call with
      | false => rfl
      | true => cases Expression.objection? call <;> rfl

theorem Divided.moved {position run : Nat} {source : List Char} {segments : List Segment}
    (divided : Divided position run source segments) (fits : run ≤ position) (distance : Nat) :
    Divided (distance + position) run source (segments.map (Segment.moved distance)) := by
  induction divided with
  | done position run =>
    rw [map_moved_prependText]
    exact .done _ run
  | backslash tail ih => exact .backslash (ih (by omega))
  | plain noSlash noMarker tail ih =>
    rw [map_moved_prependText]
    exact .plain noSlash noMarker (ih (by omega))
  | marker tail ih =>
    rw [map_moved_prependText]
    exact .marker (ih (by omega))
  | @splice position half s rest segments enclosed read tail ih =>
    rw [map_moved_prependText]
    have read' : Splice.ofContents s.contents (distance + position - 1) =
        .ok (s.moved distance) := by
      rw [Nat.add_sub_assoc (by omega), ofContents_moved, read]
    have tail' := ih (by omega)
    rw [← Nat.add_assoc, ← Nat.add_assoc] at tail'
    exact .splice (s := s.moved distance) enclosed read' tail'

theorem spliceFault?_moved {position : Nat} {source : List Char} {f : ScanFault}
    (fault : spliceFault? position source = some f) (distance : Nat) :
    spliceFault? (distance + position) source = some (f.moved distance) := by
  unfold spliceFault? at fault ⊢
  split at fault
  · cases fault
    rfl
  · split at fault
    · rename_i failed
      cases fault
      simp only [ofContents_moved, failed]
    · cases fault

/-! ### Segments put together -/

/-- Segments one after the other; two literals that meet become one. -/
def joined : List Segment → List Segment → List Segment
  | [], second => second
  | [.literal text], .literal after :: rest => .literal (text ++ after) :: rest
  | first :: rest, second => first :: joined rest second

theorem joined_splice (s : Splice) (rest second : List Segment) :
    joined (.splice s :: rest) second = .splice s :: joined rest second := by
  simp [joined]

theorem joined_cons_cons (first next : Segment) (rest second : List Segment) :
    joined (first :: next :: rest) second = first :: joined (next :: rest) second := by
  simp [joined]

theorem joined_prependText (text : List Char) (first second : List Segment) :
    joined (prependText text first) second = prependText text (joined first second) := by
  match text, first, second with
  | [], _, _ => rw [prependText_nil, prependText_nil]
  | _ :: _, [], [] | _ :: _, [], .literal _ :: _ | _ :: _, [], .splice _ :: _ => rfl
  | _ :: _, [.literal _], [] | _ :: _, [.literal _], .splice _ :: _ => rfl
  | c :: text, [.literal t], .literal after :: rest => simp [prependText, joined]
  | _ :: _, .literal _ :: _ :: _, _ => simp [prependText, joined_cons_cons]
  | _ :: _, .splice _ :: _, _ => simp [prependText, joined_cons_cons, joined_splice]

/-- Divisions are put together where no run of backslashes goes on from one to the other. -/
theorem Divided.append {position run : Nat} {a b : List Char} {first second : List Segment}
    (divided : Divided position run a first) (free : trailingRun (backslashes run ++ a) = 0)
    (tail : Divided (position + a.length) 0 b second) :
    Divided position run (a ++ b) (joined first second) := by
  induction divided with
  | done position run =>
    obtain rfl : run = 0 := by rwa [List.append_nil, trailingRun_backslashes] at free
    exact tail
  | @backslash position run rest segments divided ih =>
    refine .backslash (ih ?_ ?_)
    · rwa [backslashes, List.replicate_succ', List.append_assoc]
    · rwa [List.length_cons, Nat.add_comm rest.length, ← Nat.add_assoc] at tail
  | @plain position run c rest segments noSlash noMarker divided ih =>
    rw [Text.trailingRun_append_cons _ noSlash] at free
    rw [joined_prependText]
    refine .plain noSlash noMarker (ih free ?_)
    rwa [List.length_cons, Nat.add_comm rest.length, ← Nat.add_assoc] at tail
  | @marker position half rest segments divided ih =>
    rw [Text.trailingRun_append_cons _ (by decide)] at free
    rw [joined_prependText]
    refine .marker (ih free ?_)
    rwa [List.length_cons, Nat.add_comm rest.length, ← Nat.add_assoc] at tail
  | @splice position half s rest segments enclosed read divided ih =>
    rw [Text.trailingRun_append_cons _ (by decide),
      Text.trailingRun_append_cons _ (by decide)] at free
    have behind : position + s.contents.length + 2 + rest.length =
        position + ('(' :: (s.contents ++ ')' :: rest)).length := by
      simp
      omega
    rw [← behind] at tail
    rw [joined_prependText, joined_splice, List.cons_append, List.append_assoc, List.cons_append]
    exact .splice enclosed read (ih free tail)

/-! ### Sources put together -/

theorem trailingRun_eq_zero {text : List Char} (free : text.getLast? ≠ some '\\') :
    trailingRun text = 0 := by
  cases text using List.reverseRecOn with
  | nil => rfl
  | append_singleton before c =>
    exact Text.trailingRun_append_other before (by simpa using free)

/-- No run goes on from a text that does not end in a backslash. -/
theorem trailingRun_append {a : List Char} (free : trailingRun a = 0) (b : List Char) :
    trailingRun (a ++ b) = trailingRun b := by
  induction b using List.reverseRecOn with
  | nil => rw [List.append_nil, free]; rfl
  | append_singleton b c ih =>
    rw [← List.append_assoc]
    by_cases slash : c = '\\'
    · subst slash
      rw [Text.trailingRun_append_backslash, Text.trailingRun_append_backslash, ih]
    · rw [Text.trailingRun_append_other _ slash, Text.trailingRun_append_other _ slash]

section

variable {a : List Char} {first : List Segment}

theorem scan_append_ok (scanned : scan a = .ok first) (free : trailingRun a = 0) {b : List Char}
    {second : List Segment} (scannedBehind : scan b = .ok second) :
    scan (a ++ b) = .ok (joined first (second.map (Segment.moved a.length))) := by
  have behind := (scan_eq_ok_iff.1 scannedBehind).moved (Nat.le_refl 0) a.length
  refine scan_eq_ok_iff.2 ((scan_eq_ok_iff.1 scanned).append free ?_)
  rwa [Nat.zero_add]

theorem scan_append_error (scanned : scan a = .ok first) (free : trailingRun a = 0)
    {b : List Char} {f : ScanFault} (failed : scan b = .error f) :
    scan (a ++ b) = .error (f.moved a.length) := by
  obtain ⟨before, rest, segments, rfl, odd, scannedBefore, fault⟩ := scan_eq_error_iff.1 failed
  have filled : 1 ≤ before.length := by
    refine List.length_pos_iff.2 ?_
    rintro rfl
    cases odd
  refine scan_eq_error_iff.2 ⟨a ++ before, rest, _, by simp, ?_,
    scan_append_ok scanned free scannedBefore, ?_⟩
  · rwa [trailingRun_append free]
  · rw [List.length_append, Nat.add_sub_assoc filled]
    exact spliceFault?_moved fault a.length

end

theorem ofSource?_eq_ok_iff {source : List Char} {t : Template} :
    ofSource? source = .ok t ↔ ∃ segments, scan source = .ok segments ∧ t = ⟨source, segments⟩ := by
  unfold ofSource?
  cases scan source <;> simp [eq_comm]

theorem ofSource?_eq_malformed_iff {source : List Char} {reason : SpliceReason} {position : Nat}
    {location : Location} :
    ofSource? source = .error (.malformedTemplate reason position location) ↔
      scan source = .error (.malformed reason position) ∧
        locate? source position = some location := by
  constructor
  · intro failed
    obtain ⟨reason', position', location', scanned, found, same⟩ | ⟨_, _, -, impossible⟩ :=
      (template_refused_iff source).1 _ failed
    · cases same
      exact ⟨scanned, found⟩
    · cases impossible
  · rintro ⟨failed, found⟩
    rw [ofSource?, failed]
    simp only [ScanFault.toFault, Fault.ofTemplate, found]

/-- Scanning distributes over concatenation behind a source that can be divided and does not end in
a backslash. A malformed splice is reported for the same reason, at its place in the whole. -/
theorem scan_append {a : List Char} {first : List Segment} (scanned : scan a = .ok first)
    (free : a.getLast? ≠ some '\\') (b : List Char) :
    ((∃ both, scan (a ++ b) = .ok both) ↔ ∃ second, scan b = .ok second) ∧
      (∀ second, scan b = .ok second →
        scan (a ++ b) = .ok (joined first (second.map (Segment.moved a.length)))) ∧
      (∀ f, scan b = .error f → scan (a ++ b) = .error (f.moved a.length)) ∧
      ∀ reason position location,
        ofSource? b = .error (.malformedTemplate reason position location) →
        ∃ location',
          ofSource? (a ++ b) =
            .error (.malformedTemplate reason (a.length + position) location') ∧
          locate? (a ++ b) (a.length + position) = some location' := by
  have free := trailingRun_eq_zero free
  have divides (second) (found : scan b = .ok second) := scan_append_ok scanned free found
  have fails (f) (failed : scan b = .error f) := scan_append_error scanned free failed
  refine ⟨⟨?_, fun ⟨second, found⟩ => ⟨_, divides second found⟩⟩, divides, fails, ?_⟩
  · rintro ⟨both, found⟩
    cases alone : scan b with
    | ok second => exact ⟨second, rfl⟩
    | error f =>
      rw [fails f alone] at found
      cases found
  · intro reason position location failed
    have failedBoth := fails _ (ofSource?_eq_malformed_iff.1 failed).1
    obtain ⟨location', found, -⟩ := toFault_of_malformed failedBoth
    exact ⟨location', ofSource?_eq_malformed_iff.2 ⟨failedBoth, found⟩, found⟩

/-- The apostrophe in front of the second source opens no quoted text there. -/
theorem scan_append_apostrophe :
    ∃ first second, scan "\\(x) it'".toList = .ok first ∧
      "\\(x) it'".toList.getLast? ≠ some '\\' ∧ scan "s \\(y)".toList = .ok second ∧
      scan ("\\(x) it'".toList ++ "s \\(y)".toList) =
        .ok (joined first (second.map (Segment.moved 8))) ∧
      scan "s \\(".toList = .error (.malformed .unterminatedMarker 2) ∧
      scan ("\\(x) it'".toList ++ "s \\(".toList) =
        .error (.malformed .unterminatedMarker 10) := by
  obtain ⟨first, scanned⟩ := exists_eq_ok (x := scan "\\(x) it'".toList) (by decide +kernel)
  obtain ⟨second, scannedBehind⟩ := exists_eq_ok (x := scan "s \\(y)".toList) (by decide +kernel)
  have failed : scan "s \\(".toList = .error (.malformed .unterminatedMarker 2) := by rfl
  obtain ⟨-, divides, -, -⟩ := scan_append scanned (by decide) "s \\(y)".toList
  obtain ⟨-, -, fails, -⟩ := scan_append scanned (by decide) "s \\(".toList
  exact ⟨first, second, scanned, by decide, scannedBehind, divides second scannedBehind, failed,
    fails _ failed⟩

end TypstMarkup.Template
