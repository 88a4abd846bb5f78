import TypstMarkup.CommandLine.Program
import TypstMarkup.Proofs.CommandLine.Layered
import TypstMarkup.Proofs.Expression.LiteralFault
import TypstMarkup.Proofs.Template.Rendered

/-!
How formatting on the command line ends. Each stage of it tells of the failures it expects: reading
literals, dividing a template, evaluating it, and writing a value. The failures below are those that
a stage does not expect, and all that can end the program without a documented exit status.
-/
namespace TypstMarkup

/-! ### Templates -/

namespace Template

theorem ofSource?_eq_error_iff {source : List Char} {f : Fault} :
    ofSource? source = .error f ↔ ∃ g, scan source = .error g ∧ g.toFault source = f := by
  unfold ofSource?
  cases scan source <;> simp

/-- Rendering fails as an operation does, or as formatting is meant to. -/
theorem foreseen_render (t : Template) (names : OrderedMap Value) (r : Markup.Registry) :
    FailsWithin (Expression.Foreseen r) (t.render names r) := by
  intro f failed
  obtain ⟨_, s, _, _, reached, -, -, failed⟩ := render_eq_error_iff.1 failed
  have behaves := (Expression.behaves_evaluate s.call (List.Subset.refl _)).bind fun v =>
    (Expression.behaves_lift (isOperation_plainText? v)).bind fun text =>
      Expression.behaves_pure text.toList
  exact behaves.fails { names := reached, registry := r } f failed

end Template

/-! ### Stages of the command -/

namespace CommandLine

open TypstMarkup.Configuration (load?)

/-- The exit statuses that formatting is meant to end with. -/
def expectedStatuses : List Int :=
  [0, 2, 64, 65, 78]

/-- An ending with such a status, unless the program fails. -/
def Ending.Expected (e : Ending) : Prop :=
  e.report.failure = none → e.report.status ∈ expectedStatuses

theorem expected_failed (f : Fault) : (Ending.failed f).Expected := by
  intro unfailing
  cases unfailing

theorem expected_refused {kind : RefusalKind} (known : kind ∈ [.usage, .data, .configuration])
    (message : String) : (Ending.refused ⟨kind, message⟩).Expected := by
  have status : ∀ kind ∈ [RefusalKind.usage, .data, .configuration],
      (kind.status : Int) ∈ expectedStatuses := by
    decide
  exact fun _ => status kind known

theorem ofFault_eq_failed_iff {f g : Fault} :
    Ending.ofFault g = .failed f ↔ g = f ∧ kindOf? g.category = none := by
  unfold Ending.ofFault refusal?
  cases kindOf? g.category <;> simp

/-! #### Categories -/

theorem kindOf?_of_operational {f : Fault} (operational : f.Operational) :
    kindOf? f.category = none := by
  rw [operational_iff] at operational
  generalize f.category = c at operational
  cases c <;> first | rfl | cases operational

theorem kindOf?_of_documented {f : Fault} (documented : Markup.Documented f) :
    kindOf? f.category = some .data := by
  rcases documented with ⟨kind, rfl⟩ | ⟨key, found, expected, rfl⟩ <;> rfl

/-- Two categories of failures of operations do not count as failures of evaluation. -/
theorem category_of_untold {f : Fault} (foreseen : Markup.Documented f ∨ f.Operational)
    (untold : isEvaluationFailure f.category = false) :
    f.category = .memory ∨ f.category = .badPattern := by
  rcases foreseen with (⟨kind, rfl⟩ | ⟨key, found, expected, rfl⟩) | operational
  · cases untold
  · cases untold
  · rw [operational_iff] at operational
    generalize f.category = c at operational untold
    cases c <;> simp_all [isEvaluationFailure]

section

variable {α β : Type}

theorem attempt_eq_failed_iff {x : Except Fault α} {f : Fault} :
    attempt x = .error (.failed f) ↔ x = .error f ∧ kindOf? f.category = none := by
  rw [attempt, mapError_eq_error_iff]
  constructor
  · rintro ⟨g, failed, same⟩
    obtain ⟨rfl, unkind⟩ := ofFault_eq_failed_iff.1 same
    exact ⟨failed, unkind⟩
  · rintro ⟨failed, unkind⟩
    exact ⟨f, failed, ofFault_eq_failed_iff.2 ⟨rfl, unkind⟩⟩

theorem expected_attempt {x : Except Fault α}
    (kinds : FailsWithin
      (fun f => kindOf? f.category ∈ [none, some .data, some .configuration]) x) :
    FailsWithin Ending.Expected (attempt x) := by
  intro e failed
  rw [attempt, mapError_eq_error_iff] at failed
  obtain ⟨f, failed, rfl⟩ := failed
  have among : kindOf? f.category ∈ [none, some .data, some .configuration] := kinds f failed
  unfold Ending.ofFault refusal?
  cases kind : kindOf? f.category with
  | none => exact expected_failed f
  | some kind =>
    rw [kind] at among
    exact expected_refused (by simpa using Or.inr among) f.message

/-! #### Literals -/

theorem literalValue_eq_ok_iff {what text : String} {v : Value} :
    literalValue what text = .ok v ↔ Expression.literal? text.toList = .ok v := by
  unfold literalValue
  split
  · rename_i read
    rw [read]
    simp
  · rename_i failed
    rw [failed]
    split <;> simp

/-- The only failure of literals that the command line does not tell of. -/
theorem isLiteralFailure_eq_false_iff {f : Fault} (fault : Expression.LiteralFault f) :
    isLiteralFailure f.category = false ↔ f.category = .overflow := by
  have each : ∀ c ∈ [Category.valueError, .syntaxError, .typeError, .overflow],
      (isLiteralFailure c = false ↔ c = .overflow) := by
    decide
  exact each f.category fault

theorem literalValue_eq_failed_iff {what text : String} {f : Fault} :
    literalValue what text = .error (.failed f) ↔
      Expression.literal? text.toList = .error f ∧ f.category = .overflow := by
  unfold literalValue
  split
  · rename_i read
    rw [read]
    simp
  · rename_i g failed
    have untold := isLiteralFailure_eq_false_iff (Expression.literalFault_literal? _ g failed)
    rw [failed, Except.error.injEq]
    split
    · rename_i told
      constructor
      · intro same
        cases same
      · rintro ⟨rfl, overflow⟩
        rw [untold.2 overflow] at told
        cases told
    · rename_i unforeseen
      rw [Except.error.injEq, Ending.failed.injEq]
      constructor
      · rintro rfl
        exact ⟨rfl, untold.1 (Bool.eq_false_iff.2 unforeseen)⟩
      · exact And.left

theorem expected_literalValue (what text : String) :
    FailsWithin Ending.Expected (literalValue what text) := by
  unfold literalValue
  split
  · exact failsWithin_ok _
  · split
    · exact failsWithin_error.2 (expected_refused (by decide) _)
    · exact failsWithin_error.2 (expected_failed _)

/-! #### Variables -/

section

variable {g : α → Step β} {h : α → Except Fault β} {P : Fault → Prop} {f : Fault}
  (succeeds : ∀ a b, g a = .ok b ↔ h a = .ok b)

include succeeds

theorem mapM_eq_ok_iff_of_step (items : List α) (bs : List β) :
    items.mapM g = .ok bs ↔ items.mapM h = .ok bs := by
  induction items generalizing bs with
  | nil => exact ⟨fun same => by cases same; rfl, fun same => by cases same; rfl⟩
  | cons a rest ih =>
    simp only [List.mapM_cons, bind_eq_ok_iff, succeeds, ih, pure, Except.pure, Except.ok.injEq]

/-- The first part that fails decides, for both readings. -/
theorem mapM_eq_failed_iff_of_step (fails : ∀ a, g a = .error (.failed f) ↔ h a = .error f ∧ P f)
    (items : List α) :
    items.mapM g = .error (.failed f) ↔ items.mapM h = .error f ∧ P f := by
  induction items with
  | nil => exact ⟨nofun, nofun⟩
  | cons a rest ih =>
    simp only [List.mapM_cons, bind_eq_error_iff, succeeds, fails, ih, pure, Except.pure,
      reduceCtorEq, and_false, exists_false, or_false, or_and_right, exists_and_right, and_assoc]

end

end

/-- The values of the variables, as far as their literals can be read. -/
def FormatRequest.bound? (q : FormatRequest) : Except Fault (List (String × Value)) :=
  q.bindings.mapM fun b => (Expression.literal? b.2.toList).map fun v => (b.1, v)

/-! ### What escapes -/

/-- The configuration can be loaded, or is refused as an invalid one. -/
def State.Configurable (s : State) : Prop :=
  FailsAs .configuration (load? s.workplace (.ofText ".") s.explicit s.discovered)

theorem State.configurable_of_configuration? {s : State} (valid : s.configuration?.toBool = true) :
    s.Configurable := by
  obtain ⟨c, loaded⟩ := exists_eq_ok valid
  rw [State.Configurable, attempt_eq_ok_iff.1 loaded]
  exact failsWithin_ok c

/-- The failures that end the command without a status of its own: a literal with a number that is
too large, a splice that is refused with a plain error of syntax, an expression that runs out of
memory or makes a pattern from a bad source, and a value that formatting exceeds a limit on. -/
inductive Escapes (s : State) (q : FormatRequest) (f : Fault) : Prop
  | binding (template : q.isTemplate = true) (failed : q.bound? = .error f)
      (overflow : f.category = .overflow)
  | splice {bound : List (String × Value)} {objection : Expression.Objection} {line : Nat}
      (template : q.isTemplate = true) (read : q.bound? = .ok bound)
      (refused : Template.scan q.value.toList = .error (.refused objection line))
      (same : f = .refusedSplice objection.message line)
  | evaluation {bound : List (String × Value)} {t : Template} (template : q.isTemplate = true)
      (read : q.bound? = .ok bound) (made : Template.ofSource? q.value.toList = .ok t)
      (failed : t.render (Template.withStandardNames (OrderedMap.ofList bound)) = .error f)
      (category : f.category = .memory ∨ f.category = .badPattern)
  | value {c : Configuration} (literal : q.isTemplate = false) (free : q.bindings = [])
      (loaded : s.configuration? = .ok c) (failed : Expression.literal? q.value.toList = .error f)
      (overflow : f.category = .overflow)
  | limit {c : Configuration} {v : Value} (literal : q.isTemplate = false) (free : q.bindings = [])
      (loaded : s.configuration? = .ok c) (read : Expression.literal? q.value.toList = .ok v)
      (failed : Markup.renderText .builtin v (q.layered c) = .error f)
      (exceeds : Markup.Exceeds .builtin f v (Markup.effectiveContext .builtin v (q.layered c)))

section

variable {s : State} {q : FormatRequest} {f : Fault}

theorem formattedText_of_template (template : q.isTemplate = true) :
    formattedText s q = templateText q.value q.bindings := by
  simp [formattedText, template]

theorem formattedText_of_literal (literal : q.isTemplate = false) (free : q.bindings = []) :
    formattedText s q = literalText s q := by
  simp [formattedText, literal, free]

section

variable {g : String × String → Step (String × Value)}
  (reads : ∀ b, g b = literalValue s!"--var {b.1}" b.2 >>= fun v => pure (b.1, v))

include reads

theorem variable_eq_ok_iff (b : String × String) (entry : String × Value) :
    g b = .ok entry ↔
      (Expression.literal? b.2.toList).map (fun v => (b.1, v)) = .ok entry := by
  rw [reads, bind_eq_ok_iff, map_eq_ok_iff]
  simp only [literalValue_eq_ok_iff, pure, Except.pure, Except.ok.injEq]

theorem variables_eq_ok_iff {bound : List (String × Value)} :
    q.bindings.mapM g = .ok bound ↔ q.bound? = .ok bound :=
  mapM_eq_ok_iff_of_step (variable_eq_ok_iff reads) _ _

theorem variables_eq_failed_iff :
    q.bindings.mapM g = .error (.failed f) ↔ q.bound? = .error f ∧ f.category = .overflow := by
  apply mapM_eq_failed_iff_of_step (P := fun f => f.category = .overflow)
    (variable_eq_ok_iff reads)
  intro b
  rw [reads, bind_eq_error_iff, map_eq_error_iff]
  simp only [literalValue_eq_failed_iff, pure, Except.pure, reduceCtorEq, and_false, exists_false,
    or_false]

end

theorem escapes_of_templateText (template : q.isTemplate = true)
    (failed : templateText q.value q.bindings = .error (.failed f)) : Escapes s q f := by
  rcases bind_eq_error_iff.1 failed with failed | ⟨bound, read, failed⟩
  · obtain ⟨failed, overflow⟩ := (variables_eq_failed_iff fun _ => rfl).1 failed
    exact .binding template failed overflow
  have read := (variables_eq_ok_iff fun _ => rfl).1 read
  rcases bind_eq_error_iff.1 failed with failed | ⟨t, made, failed⟩
  · obtain ⟨failed, unkind⟩ := attempt_eq_failed_iff.1 failed
    obtain ⟨g, scanned, rfl⟩ := Template.ofSource?_eq_error_iff.1 failed
    cases g with
    | malformed reason position =>
      obtain ⟨location, -, same⟩ := Template.toFault_of_malformed scanned
      rw [same] at unkind
      cases unkind
    | refused objection line => exact .splice template read scanned rfl
  · split at failed
    · cases failed
    · rename_i rendered
      split at failed
      · cases failed
      · rename_i untold
        cases failed
        have foreseen := Template.foreseen_render t _ .builtin f rendered Markup.isBuiltin_builtin
        exact .evaluation template read (attempt_eq_ok_iff.1 made) rendered
          (category_of_untold foreseen (Bool.eq_false_iff.2 untold))

theorem templateText_of_render {bound : List (String × Value)} {t : Template}
    (read : q.bound? = .ok bound) (made : Template.ofSource? q.value.toList = .ok t)
    (failed : t.render (Template.withStandardNames (OrderedMap.ofList bound)) = .error f)
    (untold : isEvaluationFailure f.category = false) :
    templateText q.value q.bindings = .error (.failed f) := by
  refine (bind_of_eq_ok ((variables_eq_ok_iff fun _ => rfl).2 read) _).trans ?_
  refine (bind_of_eq_ok (attempt_eq_ok_iff.2 made) _).trans ?_
  rw [failed]
  simp only [untold]
  rfl

variable (configurable : s.Configurable)

include configurable

theorem escapes_of_literalText (literal : q.isTemplate = false) (free : q.bindings = [])
    (failed : literalText s q = .error (.failed f)) : Escapes s q f := by
  rcases bind_eq_error_iff.1 failed with failed | ⟨c, loaded, failed⟩
  · obtain ⟨failed, unkind⟩ := attempt_eq_failed_iff.1 failed
    rw [configurable f failed] at unkind
    cases unkind
  rcases bind_eq_error_iff.1 failed with failed | ⟨v, read, failed⟩
  · obtain ⟨failed, overflow⟩ := literalValue_eq_failed_iff.1 failed
    exact .value literal free loaded failed overflow
  · have read := literalValue_eq_ok_iff.1 read
    obtain ⟨failed, unkind⟩ := attempt_eq_failed_iff.1 failed
    rcases Markup.documented_or_exceeds_of_renderText Markup.isBuiltin_builtin failed with
      documented | exceeds
    · rw [kindOf?_of_documented documented] at unkind
      cases unkind
    · exact .limit literal free loaded read failed exceeds

/-- The command fails exactly with what escapes. -/
theorem formattedText_eq_failed_iff :
    formattedText s q = .error (.failed f) ↔ Escapes s q f := by
  constructor
  · intro failed
    unfold formattedText at failed
    split at failed
    · cases failed
    · rename_i used
      split at failed
      · rename_i template
        exact escapes_of_templateText template failed
      · rename_i literal
        have literal := Bool.eq_false_iff.2 literal
        have free : q.bindings = [] := by simpa [literal] using used
        exact escapes_of_literalText configurable literal free failed
  · intro escapes
    cases escapes with
    | binding template failed overflow =>
      rw [formattedText_of_template template]
      exact bind_of_eq_error ((variables_eq_failed_iff fun _ => rfl).2 ⟨failed, overflow⟩) _
    | splice template read refused same =>
      rw [formattedText_of_template template]
      have failed := Template.ofSource?_eq_error_iff.2 ⟨_, refused, same.symm⟩
      refine (bind_of_eq_ok ((variables_eq_ok_iff fun _ => rfl).2 read) _).trans ?_
      exact bind_of_eq_error (attempt_eq_failed_iff.2 ⟨failed, same ▸ rfl⟩) _
    | evaluation template read made failed category =>
      rw [formattedText_of_template template]
      refine templateText_of_render read made failed ?_
      rcases category with category | category <;> rw [category] <;> rfl
    | value literal free loaded failed overflow =>
      rw [formattedText_of_literal literal free, literalText, bind_of_eq_ok loaded]
      exact bind_of_eq_error (literalValue_eq_failed_iff.2 ⟨failed, overflow⟩) _
    | limit literal free loaded read failed exceeds =>
      rw [formattedText_of_literal literal free, literalText, bind_of_eq_ok loaded,
        bind_of_eq_ok (literalValue_eq_ok_iff.2 read)]
      exact attempt_eq_failed_iff.2 ⟨failed, kindOf?_of_operational exceeds.operational⟩

/-- Whatever ends formatting early has a status that is expected, or is a failure. -/
theorem expected_formattedText : FailsWithin Ending.Expected (formattedText s q) := by
  unfold formattedText
  split
  · exact failsWithin_error.2 (expected_refused (by decide) _)
  split
  · refine (failsWithin_mapM fun b _ => ?_).bind fun bound _ => ?_
    · exact (expected_literalValue _ _).bind fun v _ => failsWithin_pure _
    refine (expected_attempt ?_).bind fun t _ => ?_
    · intro f failed
      obtain ⟨g, scanned, rfl⟩ := Template.ofSource?_eq_error_iff.1 failed
      cases g with
      | malformed reason position =>
        obtain ⟨location, -, same⟩ := Template.toFault_of_malformed scanned
        rw [same]
        exact List.mem_of_mem_tail List.mem_cons_self
      | refused objection line => exact List.mem_cons_self
    · split
      · exact failsWithin_ok _
      · split
        · exact failsWithin_error.2 (expected_refused (by decide) _)
        · exact failsWithin_error.2 (expected_failed _)
  · refine (expected_attempt ?_).bind fun c _ => (expected_literalValue _ _).bind fun v _ =>
      expected_attempt ?_
    · intro f failed
      rw [configurable f failed]
      decide
    · intro f failed
      rcases Markup.documented_or_exceeds_of_renderText Markup.isBuiltin_builtin failed with
        documented | exceeds
      · rw [kindOf?_of_documented documented]
        decide
      · rw [kindOf?_of_operational exceeds.operational]
        decide

end

/-! ### The command -/

/-- The request that arguments make; none if they ask for help. -/
def asked? (arguments : List String) : Except Misuse (Option FormatRequest) := do
  let g ← FormatOption.options.read arguments
  if g.has .help then return none
  return some (← FormatRequest.ofGiven? g)

section

variable (s : State) (compiler : Compiler.Invocation → Compiler.Outcome) (arguments : List String)

theorem runCommand_format :
    runCommand s compiler .format arguments = reported (reading (asked? arguments) >>= fun asked =>
      asked.elim (pure (helpReport "format [OPTIONS] VALUE")) (runFormat s)) := by
  unfold runCommand asked?
  cases FormatOption.options.read arguments with
  | error m => rfl
  | ok g =>
    change reported (if g.has .help then _ else _) =
      reported (reading (if g.has .help then _ else _) >>= _)
    cases g.has .help with
    | true => rfl
    | false => cases FormatRequest.ofGiven? g <;> rfl

variable {s}
variable (configurable : s.Configurable)

include configurable

theorem failure_reported_runFormat (q : FormatRequest) (f : Fault) :
    (reported (runFormat s q)).failure = some f ↔ Escapes s q f := by
  rw [← formattedText_eq_failed_iff configurable, runFormat]
  cases formattedText s q with
  | ok text => exact ⟨nofun, nofun⟩
  | error e =>
    change e.report.failure = some f ↔ Except.error e = Except.error (Ending.failed f)
    cases e <;> simp [Ending.report]

theorem status_reported_runFormat (q : FormatRequest)
    (unfailing : (reported (runFormat s q)).failure = none) :
    (reported (runFormat s q)).status ∈ expectedStatuses := by
  have expected := expected_formattedText configurable (q := q)
  rw [runFormat] at unfailing ⊢
  cases formatted : formattedText s q with
  | ok text => exact List.mem_cons_self
  | error e =>
    rw [formatted] at unfailing
    exact expected e formatted unfailing

end

/-- A state without files, environment and configuration. -/
def bareState : State where
  workplace := { files := {}, folder := [], environment := .empty }
  console := ⟨false⟩
  level := .warning
  explicit := []
  discovered := false

/-- Arguments for a template that makes a pattern from a bad source. -/
def unclosedGroup : List String := ["--template", "\\(re.compile('('))"]

end CommandLine

end TypstMarkup
