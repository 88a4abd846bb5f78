import TypstMarkup.Proofs.Compiler.Changes

/-!
What a command starts. Once a configuration is found, it starts one program with its parameters. The
program it shows is found without the configuration, so the two differ where the configuration
decides. A replaced environment is what is started with, but for the font folders of the
configuration.
-/
namespace TypstMarkup.Compiler

variable {w : Workplace} {compiler : Invocation → Outcome} {configuration : Option Configuration}
  {cfg : Configuration}

theorem started_request (q : Request) (found : configured w configuration = .ok cfg) :
    (q.run w compiler configuration).started = [q.invocation w cfg] := by
  rw [Request.run, found]

theorem started_run (c : Command) (found : configured w configuration = .ok cfg) :
    (c.run w compiler configuration).started = [c.request.invocation w cfg] :=
  started_request c.request found

/-! ### Programs -/

/-- The first text of a list that is there and not empty. -/
def firstSet (candidates : List (Option String)) : Option String :=
  candidates.findSome? fun candidate => candidate.filter fun text => !text.isEmpty

theorem firstSet_cons (candidate : Option String) (rest : List (Option String)) :
    firstSet (candidate :: rest) = (firstSet [candidate]).or (firstSet rest) := by
  simp only [firstSet, List.findSome?_cons, List.findSome?_nil]
  cases candidate.filter fun text => !text.isEmpty <;> rfl

/-- The variable that names the program, as it stands in the environment. -/
def programVariable (w : Workplace) : Option String :=
  w.environment.get? Configuration.executableVariable

/-- The program that is shown: the command's own, else that of the variable, else the default. -/
theorem program_eq_firstSet (c : Command) (w : Workplace) :
    c.program w =
      (firstSet [c.executable, programVariable w]).getD Configuration.defaultExecutable := by
  rw [firstSet_cons]
  simp [Command.program, Workplace.setVariable?, programVariable, firstSet]

/-- The program that is run: the configured one stands between the command's own and that of the
variable. -/
theorem program_request_eq_firstSet (c : Command) (w : Workplace) (cfg : Configuration) :
    c.request.program w cfg =
      (firstSet [c.executable, cfg.executable, programVariable w]).getD
        Configuration.defaultExecutable := by
  rw [firstSet_cons, firstSet_cons cfg.executable, Option.getD_or, Option.getD_or]
  simp [Request.program, Command.request, Configuration.program, Workplace.setVariable?,
    programVariable, firstSet]

/-- Once a configuration is found, a command starts one process, of the first program that is set
among its own, the configured one and that of the variable. This is what it shows exactly if it has
a program of its own, or the configuration names no other than the one that is shown. -/
theorem starts_what_it_shows_iff (c : Command) (found : configured w configuration = .ok cfg) :
    (c.run w compiler configuration).started.map Invocation.arguments =
        [(firstSet [c.executable, cfg.executable, programVariable w]).getD
          Configuration.defaultExecutable :: c.parameters] ∧
      ((c.run w compiler configuration).started.map Invocation.arguments = [c.items w] ↔
        (firstSet [c.executable]).isSome ∨
          ∀ program, firstSet [cfg.executable] = some program → program = c.program w) := by
  have started : (c.run w compiler configuration).started.map Invocation.arguments =
      [c.request.program w cfg :: c.parameters] := by
    rw [started_run c found]
    rfl
  rw [started, program_request_eq_firstSet]
  refine ⟨rfl, ?_⟩
  rw [Command.items, program_eq_firstSet, firstSet_cons, firstSet_cons cfg.executable,
    firstSet_cons c.executable [programVariable w]]
  simp only [List.cons.injEq, and_true]
  cases firstSet [c.executable] with
  | some own => simp
  | none =>
    cases firstSet [cfg.executable] with
    | some program => simp
    | none => simp

/-- A workplace whose variables name a program. -/
def shelf : Workplace where
  files := {}
  folder := ["shelf"]
  environment := OrderedMap.ofList [("HOME", "/home"), ("TYPST_EXECUTABLE", "/opt/typst")]

/-- A configuration with a program of its own and font folders. -/
def nightly : Configuration where
  executable := some "typst-nightly"
  fontFolders := ["/fonts/a", "/fonts/b"]

theorem starts_what_it_shows_iff_nightly :
    let c : Command := { parameters := ["help"] }
    let run := c.run shelf (fun _ => .notFound) (some nightly)
    configured shelf (some nightly) = .ok nightly ∧
      run.started.map Invocation.arguments = [["typst-nightly", "help"]] ∧
      c.items shelf = ["/opt/typst", "help"] ∧
      run.started.map Invocation.arguments ≠ [c.items shelf] := by
  intro c run
  obtain ⟨started, shows⟩ :=
    @starts_what_it_shows_iff shelf (fun _ => .notFound) (some nightly) nightly c rfl
  refine ⟨rfl, started, by decide, fun same => ?_⟩
  rcases shows.1 same with own | agrees
  · cases own
  · exact absurd (agrees "typst-nightly" (by decide)) (by decide)

/-- A configured program is run and not shown. -/
theorem configured_program_is_not_shown :
    ¬∀ (c : Command) (w : Workplace) (compiler : Invocation → Outcome) (cfg : Configuration),
      (c.run w compiler (some cfg)).started.map Invocation.arguments = [c.items w] := by
  intro claim
  have same := claim { parameters := ["help"] } shelf (fun _ => .notFound) nightly
  exact absurd same (by decide)

/-! ### Environments -/

/-- What is started with: what the request asks for, then the configured font folders, and only if
the request inherits, what the workplace has. -/
theorem get?_environment_invocation (q : Request) (name : String) :
    (q.invocation w cfg).environment.get? name =
      (q.environment.get? name).or ((cfg.compilerVariables.get? name).or
        (if q.inherits then w.environment.get? name else none)) := by
  rw [Request.invocation, OrderedMap.get?_update, OrderedMap.get?_update]
  split <;> rfl

theorem get?_compilerVariables (cfg : Configuration) (name : String) :
    cfg.compilerVariables.get? name =
      if cfg.fontFolders ≠ [] ∧ name = Configuration.fontVariable then
        some (":".intercalate cfg.fontFolders)
      else none := by
  unfold Configuration.compilerVariables
  split
  · rename_i empty
    rw [List.isEmpty_iff] at empty
    simp [empty]
  · rename_i filled
    rw [List.isEmpty_iff] at filled
    by_cases same : name = Configuration.fontVariable
    · rw [if_pos ⟨filled, same⟩, same]
      exact OrderedMap.get?_insert_self _ _ _
    · rw [if_neg fun both => same both.2]
      exact OrderedMap.get?_insert_of_ne _ _ same

section

variable (c : Command) (before after : List Change) (environment : OrderedMap String)
  (last : ∀ m, Change.replace m ∉ after)

include last

/-- Once its variables have been replaced, a command asks for the replacement, overridden by what
was added afterwards, and inherits nothing. -/
theorem request_changed_replaced :
    (c.changed (before ++ .replace environment :: after)).request.inherits = false ∧
      ∀ name, (c.changed (before ++ .replace environment :: after)).request.environment.get? name =
        (overridden environment after).get? name := by
  rw [Command.changed_append]
  generalize c.changed before = c
  constructor
  · change ((c.replacing environment).changed after).replaced.isNone = false
    rw [Command.isNone_replaced_changed _ last]
    rfl
  · exact Command.get?_environment_changed _ last (c.get?_environment_replacing environment)

theorem get?_environment_replaced (w : Workplace) (cfg : Configuration) (name : String) :
    ((c.changed (before ++ .replace environment :: after)).request.invocation w
        cfg).environment.get? name =
      ((overridden environment after).get? name).or (cfg.compilerVariables.get? name) := by
  obtain ⟨alone, asked⟩ := request_changed_replaced c before after environment last
  rw [get?_environment_invocation, asked, alone]
  simp

/-- What a command is started with once its variables have been replaced: the replacement,
overridden by what was added afterwards, and the font folders of the configuration unless these
variables name some. So the replacement is exact, whatever the workplace has, exactly if the
configuration has no font folders or the variables name some. -/
theorem replaced_environment_is_exact_iff (found : configured w configuration = .ok cfg) :
    ∃ i, ((c.changed (before ++ .replace environment :: after)).run w compiler
        configuration).started = [i] ∧
      (∀ name, i.environment.get? name =
        ((overridden environment after).get? name).or (cfg.compilerVariables.get? name)) ∧
      ((∀ name, i.environment.get? name = (overridden environment after).get? name) ↔
        cfg.fontFolders = [] ∨
          ((overridden environment after).get? Configuration.fontVariable).isSome) := by
  have given := get?_environment_replaced c before after environment last w cfg
  refine ⟨_, started_run _ found, given, ?_⟩
  constructor
  · intro exact
    by_cases empty : cfg.fontFolders = []
    · exact .inl empty
    · right
      have same := (given Configuration.fontVariable).symm.trans (exact Configuration.fontVariable)
      rw [get?_compilerVariables, if_pos ⟨empty, rfl⟩] at same
      rw [← same]
      simp
  · intro condition name
    refine (given name).trans ?_
    rw [get?_compilerVariables]
    split
    · rename_i both
      obtain ⟨filled, rfl⟩ := both
      rcases condition with empty | named
      · exact absurd empty filled
      · obtain ⟨text, named⟩ := Option.isSome_iff_exists.1 named
        rw [named, Option.some_or]
    · exact Option.or_none

end

theorem replaced_environment_is_exact_iff_fonts :
    let environment := OrderedMap.ofList [("ONLY", "1")]
    let after : List Change :=
      [.add (OrderedMap.ofList [("B", "2"), ("ONLY", "3")]), .tolerate]
    (∀ m, Change.replace m ∉ after) ∧ configured shelf (some nightly) = .ok nightly ∧
      ∃ i, ((({ parameters := ["help"] } : Command).changed
          (.add (OrderedMap.ofList [("A", "0")]) :: .replace environment :: after)).run shelf
          (fun _ => .notFound) (some nightly)).started = [i] ∧
        i.environment.get? "ONLY" = some "3" ∧ i.environment.get? "B" = some "2" ∧
        i.environment.get? "A" = none ∧ i.environment.get? "HOME" = none ∧
        i.environment.get? "TYPST_FONT_PATHS" = some "/fonts/a:/fonts/b" ∧
        ¬∀ name, i.environment.get? name = (overridden environment after).get? name := by
  intro environment after
  have last : ∀ m, Change.replace m ∉ after := by
    intro m member
    simp [after] at member
  obtain ⟨i, started, given, exact⟩ :=
    @replaced_environment_is_exact_iff shelf (fun _ => .notFound) (some nightly) nightly
      { parameters := ["help"] } [.add (OrderedMap.ofList [("A", "0")])] after environment last rfl
  refine ⟨last, rfl, i, started, given "ONLY", given "B", given "A", given "HOME",
    given "TYPST_FONT_PATHS", fun same => ?_⟩
  rcases exact.1 same with empty | named
  · cases empty
  · exact absurd named (by decide)

/-- Configured font folders enter an environment that was to be replaced by another. -/
theorem font_folders_enter_replaced_environment :
    ¬∀ (c : Command) (before after : List Change) (environment : OrderedMap String) (w : Workplace)
      (compiler : Invocation → Outcome) (cfg : Configuration),
      (∀ m, Change.replace m ∉ after) →
        ∀ i ∈ ((c.changed (before ++ .replace environment :: after)).run w compiler
          (some cfg)).started,
          ∀ name, i.environment.get? name = (overridden environment after).get? name := by
  intro claim
  have none : ∀ m, Change.replace m ∉ ([] : List Change) := fun m => List.not_mem_nil
  have same := claim {} [] [] .empty shelf (fun _ => .notFound) nightly none _
    List.mem_cons_self "TYPST_FONT_PATHS"
  have given := get?_environment_replaced {} [] [] .empty none shelf nightly "TYPST_FONT_PATHS"
  exact absurd (given.symm.trans same) (by decide)

end TypstMarkup.Compiler
