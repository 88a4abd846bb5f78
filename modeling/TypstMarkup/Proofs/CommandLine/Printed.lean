import TypstMarkup.Proofs.CommandLine.Orderly
import TypstMarkup.Proofs.Terminal.Plain

/-!
What a run that formats a text prints. The text itself passes through the console, which drops codes
from everything that it writes without colour, whether they are part of the text or not.
-/
namespace TypstMarkup.CommandLine
open Terminal (Drops HoldsCode)

/-- A text as it is to be printed: a line feed ends it, unless it is not wanted. -/
def FormatRequest.printed (q : FormatRequest) (text : List Char) : List Char :=
  if q.endsLine then text ++ ['\n'] else text

theorem FormatRequest.holdsCode_printed {q : FormatRequest} {text : List Char} :
    HoldsCode (q.printed text) ↔ HoldsCode text := by
  unfold FormatRequest.printed
  split
  · exact Terminal.holdsCode_append_feed
  · exact Iff.rfl

theorem status_ne_zero (e : Ending) : e.report.status ≠ 0 := by
  have refusal : ∀ kind : RefusalKind, (kind.status : Int) ≠ 0 := by
    rintro (_ | _) <;> decide
  cases e with
  | misused m => exact (by decide : (Misuse.status : Int) ≠ 0)
  | refused r => exact refusal r.kind
  | failed f => exact (by decide : (1 : Int) ≠ 0)

/-- A step that is reported with success has succeeded. -/
theorem eq_ok_of_status {step : Step Report} (succeeds : (reported step).status = 0) :
    step = .ok (reported step) := by
  cases step with
  | ok report => rfl
  | error e => exact absurd succeeds (status_ne_zero e)

section

variable {w : Workplace} {compiler : Compiler.Invocation → Compiler.Outcome}
  {arguments rest : List String} {g : Given CommonOption} {q : FormatRequest}

theorem run_format (common : common? w arguments = .ok (some g))
    (command : g.arguments = "format" :: rest) (asked : asked? rest = .ok (some q)) :
    run w compiler arguments = reported (State.ofCommon? w g >>= (runFormat · q)) := by
  have named : Command.named? "format" = some .format := by decide
  simp only [run, common, command, named]
  cases State.ofCommon? w g with
  | error e => rfl
  | ok s =>
    change runCommand s compiler .format rest = _
    rw [runCommand_format, asked]
    rfl

theorem coloured_of_ofCommon? {s : State} (made : State.ofCommon? w g = .ok s) :
    s.console.coloured = !g.has .noColour := by
  obtain ⟨level, -, made⟩ := bind_eq_ok_iff.1 made
  obtain ⟨asked, -, made⟩ := bind_eq_ok_iff.1 made
  obtain ⟨_, -, made⟩ := bind_eq_ok_iff.1 made
  cases made
  rfl

theorem written_eq (c : Terminal.Console) (q : FormatRequest) (text : List Char) :
    c.written text q.endsLine =
      if c.coloured then q.printed text else Terminal.plain (q.printed text) := by
  rw [Terminal.Console.written, FormatRequest.printed]

/-- A run that succeeds has written the formatted text to the console, and nothing else. -/
theorem exists_written (common : common? w arguments = .ok (some g))
    (command : g.arguments = "format" :: rest) (asked : asked? rest = .ok (some q))
    (succeeds : (run w compiler arguments).status = 0) :
    ∃ s text, State.ofCommon? w g = .ok s ∧ formattedText s q = .ok text ∧
      run w compiler arguments = { output := s.console.written text q.endsLine } := by
  rw [run_format common command asked] at succeeds ⊢
  obtain ⟨s, made, formatted⟩ := bind_eq_ok_iff.1 (eq_ok_of_status succeeds)
  obtain ⟨text, formatted, same⟩ := bind_eq_ok_iff.1 formatted
  exact ⟨s, text, made, formatted, (Except.ok.inj same).symm⟩

/-- Whenever formatting succeeds, the output is the formatted text and a line feed, if it is
wanted, unless colour is turned off and the text holds a code: then exactly its codes are
missing. -/
theorem prints_formatted_text_iff (common : common? w arguments = .ok (some g))
    (command : g.arguments = "format" :: rest) (asked : asked? rest = .ok (some q))
    (succeeds : (run w compiler arguments).status = 0) :
    ∃ s text, State.ofCommon? w g = .ok s ∧ formattedText s q = .ok text ∧
      (run w compiler arguments).failure = none ∧ (run w compiler arguments).errors = [] ∧
      ((run w compiler arguments).output = q.printed text ↔
        g.has .noColour = false ∨ ¬ HoldsCode text) ∧
      (g.has .noColour = true → Drops (q.printed text) (run w compiler arguments).output) := by
  obtain ⟨s, text, made, formatted, report⟩ := exists_written common command asked succeeds
  have coloured := coloured_of_ofCommon? made
  rw [report]
  refine ⟨s, text, made, formatted, rfl, rfl, ?_⟩
  dsimp only
  rw [written_eq, coloured]
  cases g.has .noColour with
  | false => simp
  | true =>
    simp only [Bool.not_true, Bool.false_eq_true, ↓reduceIte, reduceCtorEq, false_or]
    constructor
    · rw [← q.holdsCode_printed]
      exact Terminal.plain_eq_self_iff
    · intro
      exact Terminal.drops_plain (q.printed text)

end

/-- A literal for a text with a code that is no colour. -/
def erasing : String := "'a\\x1b[2Kb'"

/-- With colour the code is printed. -/
theorem prints_formatted_text_iff_erasing :
    let report := run bareState.workplace (fun _ => .notFound) ["format", erasing]
    ∃ g q s text, common? bareState.workplace ["format", erasing] = .ok (some g) ∧
      g.arguments = ["format", erasing] ∧ asked? [erasing] = .ok (some q) ∧ report.status = 0 ∧
      formattedText s q = .ok text ∧ report.output = q.printed text := by
  intro report
  obtain ⟨g, common, facts⟩ := exists_some_of_any
    (x := common? bareState.workplace ["format", erasing])
    (p := fun g => g.arguments = ["format", erasing] ∧ g.has .noColour = false)
    (by decide +kernel)
  obtain ⟨command, coloured⟩ := of_decide_eq_true facts
  obtain ⟨q, asked, -⟩ := exists_some_of_any (x := asked? [erasing]) (p := fun _ => true)
    (by decide +kernel)
  have succeeds : report.status = 0 := by decide +kernel
  obtain ⟨s, text, -, formatted, -, -, printed, -⟩ :=
    prints_formatted_text_iff common command asked succeeds
  exact ⟨g, q, s, text, common, command, asked, succeeds, formatted, printed.2 (.inl coloured)⟩

/-- Without colour the code is missing from the text. -/
theorem console_drops_codes_of_text :
    ¬ ∀ w compiler arguments g rest q s text, common? w arguments = .ok (some g) →
      g.arguments = "format" :: rest → asked? rest = .ok (some q) →
      (run w compiler arguments).status = 0 → State.ofCommon? w g = .ok s →
      formattedText s q = .ok text → (run w compiler arguments).output = q.printed text := by
  intro faithful
  let w := bareState.workplace
  let arguments := ["--no-color", "format", erasing]
  have succeeds : (run w (fun _ => .notFound) arguments).status = 0 := by decide +kernel
  have output : (run w (fun _ => .notFound) arguments).output = "\"ab\"\n".toList := by
    decide +kernel
  obtain ⟨g, common, facts⟩ := exists_some_of_any (x := common? w arguments)
    (p := fun g => g.arguments = ["format", erasing] ∧
      (State.ofCommon? w g).toOption.any fun s =>
        (asked? [erasing]).toOption.any <| Option.any fun q =>
          (formattedText s q).toOption.any fun text => "\"ab\"\n".toList ≠ q.printed text)
    (by decide +kernel)
  obtain ⟨command, facts⟩ := of_decide_eq_true facts
  obtain ⟨s, made, facts⟩ := exists_of_any facts
  obtain ⟨q, asked, facts⟩ := exists_some_of_any facts
  obtain ⟨text, formatted, different⟩ := exists_of_any facts
  have printed := faithful w (fun _ => .notFound) arguments g [erasing] q s text common command
    asked succeeds made formatted
  exact of_decide_eq_true different (output ▸ printed)

end TypstMarkup.CommandLine
