import Mathlib.Tactic.Tauto
import TypstMarkup.Proofs.Compiler.Rendered
import TypstMarkup.Proofs.Compiler.Started

/-!
What becomes of a run that fails. Requests and commands judge a run by one rule: a failure is an
error unless it is tolerated, and anything else is a result. Whether a command tolerates failure
outlasts all its changes. Documents judge every run as if failure were not tolerated.
-/
namespace TypstMarkup.Compiler

open Markup

/-- An answer follows the rule for a run that ended: a failure that is not tolerated is an error
with the arguments, the status and what was said about errors, and any other run comes back as it
is. -/
structure Judged (tolerated : Prop) (arguments : List String) (r : Result)
    (answer : Except Fault Result) : Prop where
  refused : answer = .error (.compilerFailed arguments r.status r.errors) ↔
    r.status ≠ 0 ∧ ¬tolerated
  returned : answer = .ok r ↔ r.status = 0 ∨ tolerated

/-- An answer follows the rule for two tolerances exactly if they agree or the run did not fail. -/
theorem Judged.iff_of_judged {tolerated other : Prop} {arguments : List String} {r : Result}
    {answer : Except Fault Result} (judged : Judged tolerated arguments r answer) :
    Judged other arguments r answer ↔ r.status = 0 ∨ (tolerated ↔ other) := by
  constructor
  · intro judgedOther
    have same := judged.returned.symm.trans judgedOther.returned
    tauto
  · rintro agree
    constructor
    · rw [judged.refused]
      tauto
    · rw [judged.returned]
      tauto

theorem judged_judge (q : Request) (program : String) (r : Result) :
    Judged (q.toleratesFailure = true) q.arguments r (q.judge program (.ended r)) := by
  unfold Request.judge Result.succeeded
  constructor
  · cases q.toleratesFailure <;> by_cases zero : r.status = 0 <;> simp [zero]
  · cases q.toleratesFailure <;> by_cases zero : r.status = 0 <;> simp [zero]

section

variable {w : Workplace} {compiler : Invocation → Outcome} {configuration : Option Configuration}

theorem judged_request {q : Request} {i : Invocation} {r : Result}
    (started : i ∈ (q.run w compiler configuration).started) (ended : compiler i = .ended r) :
    Judged (q.toleratesFailure = true) q.arguments r (q.run w compiler configuration).answer := by
  unfold Request.run at started ⊢
  split
  · rename_i failed
    rw [failed] at started
    cases started
  · rename_i cfg found
    rw [found] at started
    obtain rfl : i = q.invocation w cfg := List.mem_singleton.1 started
    dsimp only
    rw [ended]
    exact judged_judge q _ r

theorem judged_command {c : Command} {i : Invocation} {r : Result}
    (started : i ∈ (c.run w compiler configuration).started) (ended : compiler i = .ended r) :
    Judged (c.toleratesFailure = true) c.parameters r (c.run w compiler configuration).answer :=
  judged_request started ended

end

/-- The parameters of the command that makes a document. -/
def Document.parameters (d : Document) : List String :=
  ["compile", d.input, d.output]

/-- Rendering runs a command that tolerates no failure, if it starts anything. -/
theorem render_eq_run {d : Document} {registry : Registry} {w : Workplace}
    {compiler : Invocation → Outcome} {configuration : Option Configuration} {v : Value}
    {i : Invocation} (started : i ∈ (d.render registry w compiler configuration v).1.started) :
    ∃ w', (d.render registry w compiler configuration v).1 =
      ({ parameters := d.parameters } : Command).run w' compiler configuration := by
  unfold Document.render at started ⊢
  split
  · rename_i failed
    rw [failed] at started
    cases started
  · rename_i made
    rw [made] at started
    dsimp only at started
    split
    · rename_i refused
      rw [refused] at started
      cases started
    · exact ⟨_, rfl⟩

/-- Whatever is started and ends: requests and commands follow the rule, and commands that were
changed follow it for the tolerance they were made or changed with. Documents follow it as if
failure were never tolerated, so they follow it exactly if the run does not fail or the document
does not tolerate failure. -/
theorem failures_are_judged_alike_iff (w : Workplace) (compiler : Invocation → Outcome)
    (configuration : Option Configuration) (r : Result) :
    (∀ (q : Request), ∀ i ∈ (q.run w compiler configuration).started, compiler i = .ended r →
      Judged (q.toleratesFailure = true) q.arguments r (q.run w compiler configuration).answer) ∧
    (∀ (c : Command) (changes : List Change),
      ∀ i ∈ ((c.changed changes).run w compiler configuration).started, compiler i = .ended r →
        Judged (c.toleratesFailure = true ∨ Change.tolerate ∈ changes) c.parameters r
          ((c.changed changes).run w compiler configuration).answer) ∧
    ∀ (d : Document) (registry : Registry) (v : Value),
      ∀ i ∈ (d.render registry w compiler configuration v).1.started, compiler i = .ended r →
        let answer := (d.render registry w compiler configuration v).1.answer
        Judged False d.parameters r answer ∧
          (Judged (d.toleratesFailure = true) d.parameters r answer ↔
            r.status = 0 ∨ d.toleratesFailure = false) := by
  refine ⟨fun q i started ended => judged_request started ended, ?_, ?_⟩
  · intro c changes i started ended
    have judged := judged_command started ended
    rwa [Command.toleratesFailure_changed, Command.parameters_changed] at judged
  · intro d registry v i started ended answer
    have never : Judged False d.parameters r answer := by
      obtain ⟨w', same⟩ := render_eq_run started
      rw [same] at started
      have judged := judged_command started ended
      rw [← same] at judged
      simpa using judged
    refine ⟨never, ?_⟩
    rw [never.iff_of_judged]
    simp

/-- A compiler that always fails. -/
def failing : Result := ⟨1, "", "error: unknown variable"⟩

/-- A document of a value that can be written, for one who puts up with a failing compiler. -/
def tolerant : Document := { opened with toleratesFailure := true }

theorem failures_are_judged_alike_iff_failing :
    let compiler : Invocation → Outcome := fun _ => .ended failing
    let q : Request := { arguments := ["compile", "a.typ"], toleratesFailure := true }
    let c : Command := { parameters := ["compile", "a.typ"] }
    let changes : List Change := [.tolerate, .replace .empty, .add .empty]
    let made := (tolerant.render .builtin desk compiler (some nightly) (.list [.null])).1
    (∃ i ∈ (q.run desk compiler (some nightly)).started, compiler i = .ended failing) ∧
      (q.run desk compiler (some nightly)).answer = .ok failing ∧
      (∃ i ∈ ((c.changed changes).run desk compiler (some nightly)).started,
        compiler i = .ended failing) ∧
      ((c.changed changes).run desk compiler (some nightly)).answer = .ok failing ∧
      (∃ i ∈ made.started, compiler i = .ended failing) ∧
      made.answer = .error (.compilerFailed tolerant.parameters 1 "error: unknown variable") ∧
      ¬Judged (tolerant.toleratesFailure = true) tolerant.parameters failing made.answer := by
  intro compiler q c changes made
  obtain ⟨requests, commands, documents⟩ :=
    failures_are_judged_alike_iff desk compiler (some nightly) failing
  have requested : q.invocation desk nightly ∈ (q.run desk compiler (some nightly)).started :=
    List.mem_singleton.2 rfl
  have commanded : (c.changed changes).request.invocation desk nightly ∈
      ((c.changed changes).run desk compiler (some nightly)).started :=
    List.mem_singleton.2 rfl
  obtain ⟨i, rendered⟩ : ∃ i, i ∈ made.started :=
    List.exists_mem_of_length_pos (by decide)
  obtain ⟨never, tolerantly⟩ := documents tolerant .builtin (.list [.null]) i rendered rfl
  refine ⟨⟨_, requested, rfl⟩, (requests q _ requested rfl).returned.2 (.inr rfl),
    ⟨_, commanded, rfl⟩, (commands c changes _ commanded rfl).returned.2 (.inr (.inr ?_)),
    ⟨i, rendered, rfl⟩, never.refused.2 ⟨by decide, not_false⟩, fun judged => ?_⟩
  · exact List.mem_cons_self
  · exact absurd (tolerantly.1 judged) (by decide)

/-- A document that tolerates failure is refused all the same when the compiler fails. -/
theorem tolerance_of_documents_is_lost :
    ¬∀ (d : Document) (registry : Registry) (w : Workplace) (compiler : Invocation → Outcome)
      (configuration : Option Configuration) (v : Value) (r : Result),
      let made := (d.render registry w compiler configuration v).1
      ∀ i ∈ made.started, compiler i = .ended r →
        Judged (d.toleratesFailure = true) d.parameters r made.answer := by
  intro claim
  let made := (tolerant.render .builtin desk (fun _ => .ended failing) (some nightly)
    (.list [.null])).1
  obtain ⟨i, rendered⟩ : ∃ i, i ∈ made.started :=
    List.exists_mem_of_length_pos (by decide)
  have judged := claim tolerant .builtin desk (fun _ => .ended failing) (some nightly)
    (.list [.null]) failing i rendered rfl
  have answered : made.answer = .ok failing := judged.returned.2 (.inr rfl)
  exact absurd (congrArg Except.toBool answered) (by decide)

end TypstMarkup.Compiler
