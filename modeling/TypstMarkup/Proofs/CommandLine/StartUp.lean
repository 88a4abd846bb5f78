import TypstMarkup.CommandLine.Program
import TypstMarkup.Proofs.Log.Level

/-!
The level that the variables give, and what it does to the start of the program. The program reads
it before any command runs, so a text that breaks the reading keeps every command from running.
-/
namespace TypstMarkup

open Text (strip)

namespace Log.Level

/-- The empty text counts as none, which is what it is read as. -/
theorem ofVariables?_eq_ofText? {w : Workplace} {text : String}
    (given : w.environment.get? levelVariable = some text) :
    ofVariables? w = ofText? text.toList := by
  rw [ofVariables?, Workplace.setVariable?, given]
  by_cases empty : text = ""
  · subst empty
    have nothing : strip "".toList = [] := by decide
    exact (ofText?_of_other (.inl nothing)).symm
  · rw [Option.filter_some_pos (by simpa using empty)]

end Log.Level

namespace CommandLine

open Log.Level (levelVariable ofText? ofVariables? Denotes Breaks Unreadable)

/-- Requests for more do not come together with requests for less. -/
def OneSided (g : Given CommonOption) : Prop :=
  g.count .verbose = 0 ∨ g.count .quiet = 0

/-- The level that is set up when the variables give a level or none: theirs, else the one that
requests for more come to, else that of critical messages. -/
def setUp (found : Option Log.Level) (level : Log.Level) (more : Nat) : Log.Level :=
  (found.or (if 0 < more then some level else none)).getD Log.Level.critical

section

variable {w : Workplace} {g : Given CommonOption}

theorem exists_verbosity?_iff :
    (∃ level, verbosity? (g.count .verbose) (g.count .quiet) = .ok level) ↔ OneSided g := by
  unfold verbosity? OneSided
  split
  · rename_i both
    simp only [Bool.and_eq_true, decide_eq_true_eq] at both
    refine iff_of_false (by rintro ⟨_, ⟨⟩⟩) (by omega)
  · rename_i single
    simp only [Bool.and_eq_true, decide_eq_true_eq] at single
    refine iff_of_true ?_ (by omega)
    repeat' split
    all_goals exact ⟨_, rfl⟩

/-- The variables are asked a second time only if they gave nothing, and then they give nothing
again. -/
theorem askedLevel?_setupLevel? (w : Workplace) (level : Log.Level) (more : Nat) :
    askedLevel? w level more >>= setupLevel? w =
      (ofVariables? w).map fun found => setUp found level more := by
  unfold askedLevel? setupLevel? setUp
  cases ofVariables? w with
  | error f => rfl
  | ok found =>
    cases found with
    | some given => rfl
    | none => split <;> rfl

theorem ofCommon?_of_refused {r : Refusal}
    (refused : verbosity? (g.count .verbose) (g.count .quiet) = .error r) :
    State.ofCommon? w g = .error (.refused r) := by
  rw [State.ofCommon?, refused]
  rfl

theorem ofCommon?_of_failed {level : Log.Level} {f : Fault}
    (single : verbosity? (g.count .verbose) (g.count .quiet) = .ok level)
    (failed : ofVariables? w = .error f) : State.ofCommon? w g = .error (.failed f) := by
  have asked : askedLevel? w level (g.count .verbose) = .error f := by
    rw [askedLevel?, failed]
    rfl
  rw [State.ofCommon?, single]
  change ((askedLevel? w level (g.count .verbose)).mapError Ending.failed >>= _) = _
  rw [asked]
  rfl

theorem exists_ofCommon? {level : Log.Level} {found : Option Log.Level}
    (single : verbosity? (g.count .verbose) (g.count .quiet) = .ok level)
    (read : ofVariables? w = .ok found) : ∃ s, State.ofCommon? w g = .ok s := by
  obtain ⟨asked, answered, set⟩ := bind_eq_ok_iff.1 <|
    (askedLevel?_setupLevel? w level (g.count .verbose)).trans
      (map_eq_ok_iff.2 ⟨found, read, rfl⟩)
  rw [State.ofCommon?, single]
  change ∃ s, ((askedLevel? w level (g.count .verbose)).mapError Ending.failed >>= _) = _
  rw [answered]
  change ∃ s, (discard ((setupLevel? w asked).mapError Ending.failed) >>= _) = _
  rw [set]
  exact ⟨_, rfl⟩

/-- What setting up the state comes to: the common options contradict each other, or the variables
cannot be read, or there is a state. -/
theorem ofCommon?_cases (w : Workplace) (g : Given CommonOption) :
    (¬OneSided g ∧ ∃ r, State.ofCommon? w g = .error (.refused r)) ∨
      (OneSided g ∧ ∃ f, ofVariables? w = .error f ∧ State.ofCommon? w g = .error (.failed f)) ∨
        OneSided g ∧ (∃ found, ofVariables? w = .ok found) ∧ ∃ s, State.ofCommon? w g = .ok s := by
  rw [← exists_verbosity?_iff]
  cases single : verbosity? (g.count .verbose) (g.count .quiet) with
  | error r => exact .inl ⟨by rintro ⟨_, ⟨⟩⟩, r, ofCommon?_of_refused single⟩
  | ok level =>
    right
    cases read : ofVariables? w with
    | error f => exact .inl ⟨⟨level, rfl⟩, f, rfl, ofCommon?_of_failed single read⟩
    | ok found => exact .inr ⟨⟨level, rfl⟩, ⟨found, rfl⟩, exists_ofCommon? single read⟩

theorem ofCommon?_eq_error_failed_iff {f : Fault} :
    State.ofCommon? w g = .error (.failed f) ↔ OneSided g ∧ ofVariables? w = .error f := by
  rcases ofCommon?_cases w g with
    ⟨contrary, r, made⟩ | ⟨single, e, read, made⟩ | ⟨-, ⟨found, read⟩, s, made⟩
  · rw [made]
    exact iff_of_false nofun fun both => contrary both.1
  · rw [made, read, and_iff_right single, Except.error.injEq, Except.error.injEq,
      Ending.failed.injEq]
  · rw [made, read]
    exact iff_of_false nofun (by rintro ⟨-, ⟨⟩⟩)

theorem exists_ofCommon?_iff :
    (∃ s, State.ofCommon? w g = .ok s) ↔ OneSided g ∧ ∃ found, ofVariables? w = .ok found := by
  rcases ofCommon?_cases w g with
    ⟨contrary, r, made⟩ | ⟨-, f, read, made⟩ | ⟨single, read, made⟩
  · rw [made]
    exact iff_of_false (by rintro ⟨_, ⟨⟩⟩) fun both => contrary both.1
  · rw [made, read]
    exact iff_of_false (by rintro ⟨_, ⟨⟩⟩) (by rintro ⟨-, _, ⟨⟩⟩)
  · exact iff_of_true made ⟨single, read⟩

/-- A command line that asks for no help and names no unknown command, with its common options. -/
structure Reaches (w : Workplace) (arguments : List String) (g : Given CommonOption) : Prop where
  common : common? w arguments = .ok (some g)
  known : ∀ name ∈ g.arguments.head?, (Command.named? name).isSome = true

/-- Without a state the program ends before any command runs. -/
theorem run_of_ofCommon?_eq_error {compiler : Compiler.Invocation → Compiler.Outcome}
    {arguments : List String} {ending : Ending} (reached : Reaches w arguments g)
    (failed : State.ofCommon? w g = .error ending) :
    run w compiler arguments = ending.report := by
  rw [run, reached.common]
  dsimp only
  cases words : g.arguments with
  | nil =>
    dsimp only
    rw [failed]
    rfl
  | cons name rest =>
    have known := reached.known name (by rw [words]; rfl)
    obtain ⟨command, named⟩ := Option.isSome_iff_exists.1 known
    dsimp only
    rw [named, failed]

/-- A text given by the variable of the level is read as the level that it denotes, and the program
starts with that level, or as without the variable if it denotes none. Only a text of digits that is
no number breaks the start: then reading it fails, and nothing but the failure is reported. -/
theorem level_setting_breaks_start_up_iff {text : String}
    (given : w.environment.get? levelVariable = some text) :
    (∀ found, ofText? text.toList = .ok found ↔ Denotes (strip text.toList) found) ∧
      (∀ f, ofText? text.toList = .error f ↔ Breaks (strip text.toList) f) ∧
      ((∃ f, Breaks (strip text.toList) f) ↔ Unreadable (strip text.toList)) ∧
      ofVariables? w = ofText? text.toList ∧
      (∀ level more, askedLevel? w level more >>= setupLevel? w =
        (ofText? text.toList).map fun found => setUp found level more) ∧
      (∀ g, (∃ s, State.ofCommon? w g = .ok s) ↔
        OneSided g ∧ ¬Unreadable (strip text.toList)) ∧
      (∀ g f, State.ofCommon? w g = .error (.failed f) ↔
        OneSided g ∧ Breaks (strip text.toList) f) ∧
      ∀ compiler arguments g f, Reaches w arguments g → OneSided g →
        Breaks (strip text.toList) f → run w compiler arguments = (Ending.failed f).report := by
  have same := Log.Level.ofVariables?_eq_ofText? given
  have failing (g : Given CommonOption) (f : Fault) : State.ofCommon? w g = .error (.failed f) ↔
      OneSided g ∧ Breaks (strip text.toList) f := by
    rw [ofCommon?_eq_error_failed_iff, same, Log.Level.ofText?_eq_error_iff]
  refine ⟨fun found => Log.Level.ofText?_eq_ok_iff, fun f => Log.Level.ofText?_eq_error_iff,
    Log.Level.exists_breaks_iff, same, fun level more => ?_, fun g => ?_, failing,
    fun compiler arguments g f reached single breaks => ?_⟩
  · rw [askedLevel?_setupLevel?, same]
  · rw [exists_ofCommon?_iff, same, Log.Level.exists_ofText?_eq_ok_iff]
  · exact run_of_ofCommon?_eq_error reached ((failing g f).2 ⟨single, breaks⟩)

end

/-- A workplace whose variables give a level. -/
def levelled (text : String) : Workplace where
  files := {}
  folder := []
  environment := OrderedMap.ofList [(levelVariable, text)]

theorem get?_levelled (text : String) :
    (levelled text).environment.get? levelVariable = some text := by
  simp [levelled, OrderedMap.ofList, OrderedMap.insertAll]

def superscriptFault : Fault :=
  .notANumber (String.ofList (Text.quoted ['²']))

theorem breaks_superscript : Breaks (strip "²".toList) superscriptFault := by
  have token : strip "²".toList = ['²'] := by decide
  rw [token]
  exact .notDecimal (List.all_eq_true.1 (by decide)) (by decide) List.mem_cons_self (by decide)

/-- Decimal digits of any script are a level; with a superscript the program ends at once. -/
theorem level_setting_breaks_start_up_iff_digits :
    (levelled "１０").environment.get? levelVariable = some "１０" ∧
      ofVariables? (levelled "１０") = .ok (some 10) ∧
      (∃ s, State.ofCommon? (levelled "１０") {} = .ok s) ∧
      (levelled "²").environment.get? levelVariable = some "²" ∧
      run (levelled "²") (fun _ => .notFound) [] = (Ending.failed superscriptFault).report := by
  have given := get?_levelled "１０"
  obtain ⟨reads, -, -, same, -, starts, -⟩ := level_setting_breaks_start_up_iff given
  have written : Text.IsWritten (strip "１０".toList) 10 :=
    ⟨[1, 0], .cons (by decide) (.cons (by decide) .nil), by decide⟩
  have denotes : Denotes (strip "１０".toList) (some 10) :=
    .number (by decide) written (by decide)
  have readable : ¬Unreadable (strip "１０".toList) := by
    rintro ⟨-, ⟨c, listed, other⟩ | long⟩
    · simpa [other] using written.decimal c listed
    · exact absurd long (by decide)
  have broken := get?_levelled "²"
  obtain ⟨-, -, -, -, -, -, -, ends⟩ := level_setting_breaks_start_up_iff broken
  have reached : Reaches (levelled "²") [] {} := ⟨rfl, by rintro _ ⟨⟩⟩
  exact ⟨given, same.trans ((reads _).2 denotes), (starts {}).2 ⟨.inl rfl, readable⟩, broken,
    ends _ _ {} _ reached (.inl rfl) breaks_superscript⟩

/-- A superscript is a digit and no number. It makes reading fail at each of the three places, and
with it the program. -/
theorem superscript_breaks_start_up :
    ¬∀ (w : Workplace) (text : String), w.environment.get? levelVariable = some text →
      (∃ found, ofText? text.toList = .ok found) ∧ (∃ found, ofVariables? w = .ok found) ∧
        ∀ g f, State.ofCommon? w g ≠ .error (.failed f) := by
  intro harmless
  have given := get?_levelled "²"
  obtain ⟨-, -, starts⟩ := harmless (levelled "²") "²" given
  have failed : ofVariables? (levelled "²") = .error superscriptFault := by
    rw [Log.Level.ofVariables?_eq_ofText? given, Log.Level.ofText?_of_breaks breaks_superscript]
  exact starts {} _ (ofCommon?_eq_error_failed_iff.2 ⟨.inl rfl, failed⟩)

end CommandLine

end TypstMarkup
