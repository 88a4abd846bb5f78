import TypstMarkup.Markup.Write

/-!
Calls. What a rule does is a procedure: it has further values written and goes on with what came of
them. So it is decided by what is written for exactly the values that it calls for, one after the
other.
-/
namespace TypstMarkup.Markup

open Emission (text fail)

namespace Procedure

variable {w w' : Writer} {c : Context}

/-! ### Procedures in sequence -/

/-- Goes on with what a procedure has written. -/
def bind (p : Procedure) (f : Emission → Procedure) : Procedure :=
  match p with
  | finish e => f e
  | call v inherits settings next => call v inherits settings fun e => (next e).bind f

def ask (v : Value) (settings : List (String × Value)) : Procedure :=
  call v true settings finish

/-- Follows one procedure after the other; after a failure nothing more is done. -/
def append (p q : Procedure) : Procedure :=
  p.bind fun e =>
    match e.fault with
    | some _ => finish e
    | none => q.bind fun e' => finish (e ++ e')

instance : Append Procedure := ⟨append⟩

/-- Continues with a result, or fails with its failure. -/
def attempt {α : Type} (result : Except Fault α) (next : α → Procedure) : Procedure :=
  match result with
  | .ok a => next a
  | .error f => finish (fail f)

def concat : List Procedure → Procedure
  | [] => finish (text [])
  | p :: rest => p ++ concat rest

/-- Follows procedures in order and writes a delimiter between consecutive ones. -/
def join (delimiter : List Char) : List Procedure → Procedure
  | [] => finish (text [])
  | [p] => p
  | p :: rest => p ++ (finish (text delimiter) ++ join delimiter rest)

/-- Follows a procedure between two delimiters. -/
def enclose (left : List Char) (body : Procedure) (right : List Char) : Procedure :=
  finish (text left) ++ (body ++ finish (text right))

/-- Follows a procedure between a delimiter and its reverse. -/
def surround (left : List Char) (body : Procedure) : Procedure :=
  enclose left body left.reverse

@[simp] theorem run_finish (e : Emission) : (finish e).run w c = e := rfl

@[simp] theorem run_ask (v : Value) (settings : List (String × Value)) :
    (ask v settings).run w c = w v (c.insertAll settings) := rfl

@[simp] theorem run_bind (p : Procedure) (f : Emission → Procedure) :
    (p.bind f).run w c = (f (p.run w c)).run w c := by
  induction p with
  | finish e => rfl
  | call v inherits settings next ih => exact ih _

@[simp] theorem run_append (p q : Procedure) : (p ++ q).run w c = p.run w c ++ q.run w c := by
  refine (run_bind p _).trans ?_
  generalize p.run w c = e
  obtain ⟨written, fault⟩ := e
  cases fault with
  | some f => rfl
  | none => exact run_bind q _

@[simp] theorem run_attempt {α : Type} (result : Except Fault α) (next : α → Procedure) :
    (attempt result next).run w c = .attempt result fun a => (next a).run w c := by
  cases result <;> rfl

@[simp] theorem run_concat (ps : List Procedure) :
    (concat ps).run w c = .concat (ps.map (run w c)) := by
  induction ps with
  | nil => rfl
  | cons p rest ih => rw [concat, run_append, ih, List.map_cons, Emission.concat]

@[simp] theorem run_join (delimiter : List Char) (ps : List Procedure) :
    (join delimiter ps).run w c = .join delimiter (ps.map (run w c)) := by
  induction ps with
  | nil => rfl
  | cons p rest ih =>
    cases rest with
    | nil => rfl
    | cons q rest =>
      rw [join.eq_def, run_append, run_append, ih, run_finish]
      rfl

@[simp] theorem run_enclose (left : List Char) (body : Procedure) (right : List Char) :
    (enclose left body right).run w c = .enclose left (body.run w c) right := by
  rw [enclose, run_append, run_append, run_finish, run_finish, Emission.enclose]

@[simp] theorem run_surround (left : List Char) (body : Procedure) :
    (surround left body).run w c = .surround left (body.run w c) :=
  run_enclose left body _

/-! ### The values called for -/

/-- The values that a procedure calls for if they are written by a writer, with their contexts. -/
def calls (w : Writer) (c : Context) : Procedure → List (Value × Context)
  | finish _ => []
  | call v inherits settings next =>
    (v, context c inherits settings) :: (next (w v (context c inherits settings))).calls w c

/-- Writers that agree on what the procedure calls for give the same. -/
theorem run_congr (p : Procedure) (agree : ∀ x ∈ p.calls w c, w x.1 x.2 = w' x.1 x.2) :
    p.run w c = p.run w' c := by
  induction p with
  | finish e => rfl
  | call v inherits settings next ih =>
    have first := agree (v, context c inherits settings) List.mem_cons_self
    rw [run, run, ← first]
    exact ih _ fun x later => agree x (List.mem_cons_of_mem _ later)

end Procedure

/-! ### The procedures of rules -/

open Procedure (finish ask)

variable {w : Writer} {v : Value} {c : Context}

/-- What is called for to write a quotient. -/
def fractionProcedure (v : Value) (c : Context) : Procedure :=
  let body (settings : List (String × Value)) : Procedure :=
    match ratio? v with
    | some (numerator, denominator) =>
      ask (.int numerator) settings ++ (finish (text [' ', '/', ' ']) ++
        ask (.int denominator) settings)
    | none => finish (fail (lacks v "numerator"))
  .attempt c.mode fun mode =>
    if mode = .markup then
      .attempt (mathPad c) fun pad => .surround pad (body [("mode", .mode .math)])
    else .enclose ['('] (body []) [')']

theorem run_fractionProcedure : (fractionProcedure v c).run w c = writeFraction w v c := by
  have body (settings : List (String × Value)) :
      (match ratio? v with
        | some (numerator, denominator) =>
          ask (.int numerator) settings ++ (finish (text [' ', '/', ' ']) ++
            ask (.int denominator) settings)
        | none => finish (fail (lacks v "numerator"))).run w c =
      match ratio? v with
      | some (numerator, denominator) =>
        w (.int numerator) (c.insertAll settings) ++ (.text [' ', '/', ' '] ++
          w (.int denominator) (c.insertAll settings))
      | none => .fail (lacks v "numerator") := by
    split <;> simp
  rw [fractionProcedure, Procedure.run_attempt, writeFraction]
  refine congrArg (Emission.attempt _) (funext fun mode => ?_)
  split
  · simp only [Procedure.run_attempt, Procedure.run_surround, body]
    rfl
  · simp only [Procedure.run_enclose, body]
    rfl

/-- What is called for to write a progression. -/
def rangeProcedure (v : Value) (c : Context) : Procedure :=
  match v.core with
  | .range r =>
    if wordLimit ≤ r.length then finish (fail .notANativeSize)
    else
      let bound (n : Int) := ask (.int n) [("mode", .mode .code)]
      finish (codeSigil c) ++
        .enclose "range(".toList
          (bound r.start ++ (finish (text [',', ' ']) ++ (bound (writtenStop r) ++
            (finish (text ", step: ".toList) ++ bound r.step))))
          [')']
  | _ => finish (fail (lacks v "start"))

theorem run_rangeProcedure : (rangeProcedure v c).run w c = writeRange w v c := by
  unfold rangeProcedure writeRange
  cases v.core with
  | range r =>
    dsimp only
    split
    · rfl
    · simp only [Procedure.run_append, Procedure.run_enclose, Procedure.run_finish,
        Procedure.run_ask]
      rfl
  | _ => rfl

/-- The settings of the elements of a container. -/
def elementSettings (depth : Nat) : List (String × Value) :=
  [("mode", .mode .math), ("depth", .int (depth + 1))]

/-- What is called for to write the elements of a container. -/
def elementsProcedure (depth : Nat) (items : List Value) : Procedure :=
  .join [',', ' '] (items.map fun x => ask x (elementSettings depth))

theorem run_elementsProcedure (depth : Nat) (items : List Value) :
    (elementsProcedure depth items).run w c =
      writeElements w ((c.withMode .math).withDepth (depth + 1)) items := by
  rw [elementsProcedure, Procedure.run_join, List.map_map, writeElements]
  rfl

/-- What is called for to write a vector. -/
def vectorProcedure (v : Value) (c : Context) : Procedure :=
  .attempt c.depth fun depth =>
    .attempt c.indent fun indent =>
      .attempt (mathPad c) fun pad => .surround pad
        (finish (parameterHead (c.withMode .math) "vec".toList vectorParameters) ++
          (.attempt (repeated indent (depth + 1)) fun spaces => finish (text spaces) ++
            (.attempt v.items? (elementsProcedure depth) ++ finish (closing indent depth))))

theorem run_vectorProcedure : (vectorProcedure v c).run w c = writeVector w v c := by
  simp only [vectorProcedure, Procedure.run_attempt, Procedure.run_surround, Procedure.run_append,
    Procedure.run_finish, run_elementsProcedure, writeVector]

/-- What is called for to write a row of a matrix. -/
def rowProcedure (depth : Nat) (spaces : Except Fault (List Char))
    (row : Except Fault (List Value)) : Procedure :=
  .attempt spaces fun spaces => finish (text spaces) ++ .attempt row (elementsProcedure depth)

theorem run_rowProcedure (depth : Nat) (spaces : Except Fault (List Char)) :
    (fun row => (rowProcedure depth spaces row).run w c) =
      writeRow w ((c.withMode .math).withDepth (depth + 1)) spaces := by
  funext row
  simp only [rowProcedure, Procedure.run_attempt, Procedure.run_append, Procedure.run_finish,
    run_elementsProcedure, writeRow]

/-- What is called for to write a matrix. -/
def matrixProcedure (v : Value) (c : Context) : Procedure :=
  .attempt c.depth fun depth =>
    .attempt c.indent fun indent =>
      .attempt (mathPad c) fun pad => .surround pad
        (finish (parameterHead ((c.withMode .math).withDepth (depth + 1)) "mat".toList
            matrixParameters) ++
          (.attempt (rowsOf v) (fun rows =>
              .join [';', '\n'] (rows.map (rowProcedure depth (repeated indent (depth + 1))))) ++
            finish (closing indent depth)))

theorem run_matrixProcedure : (matrixProcedure v c).run w c = writeMatrix w v c := by
  simp only [matrixProcedure, Procedure.run_attempt, Procedure.run_surround, Procedure.run_append,
    Procedure.run_finish, Procedure.run_join, List.map_map, Function.comp_def, writeMatrix,
    run_rowProcedure]

def BuiltinRule.procedure (rule : BuiltinRule) (v : Value) (c : Context) : Procedure :=
  match rule with
  | .fraction => fractionProcedure v c
  | .range => rangeProcedure v c
  | .vector => vectorProcedure v c
  | .matrix => matrixProcedure v c
  -- The other rules have nothing else written.
  | rule => finish (rule.apply (fun _ _ => text []) v c)

theorem BuiltinRule.run_procedure (rule : BuiltinRule) :
    (rule.procedure v c).run w c = rule.apply w v c := by
  cases rule with
  | fraction => exact run_fractionProcedure
  | range => exact run_rangeProcedure
  | vector => exact run_vectorProcedure
  | matrix => exact run_matrixProcedure
  | _ => rfl

/-- What a part of a composed rule calls for, unless it applies another rule. -/
def partProcedure (part : Part) (v : Value) (c : Context) : Procedure :=
  match part with
  | .text s => finish (text s.toList)
  | .setting key =>
    match c.get? key with
    | some found => .attempt found.shown? fun shown => finish (text shown.toList)
    | none => finish (fail (.absentKey (Text.quotedString key)))
  | .optional key => .attempt (c.found key).shown? fun shown => finish (text shown.toList)
  | .accessor which => finish (writeAccessor which c)
  | .parameter key => finish (.attemptText (c.parameter key))
  | .payload overrides =>
    match v with
    | .object _ _ (some payload) => ask payload overrides
    | _ => finish (fail (lacks v "payload"))
  | .plain => .attempt v.plainText? fun plain => finish (text plain.toList)
  | .procedure body => body v c.get?
  | .delegate _ => finish (text [])
  | .fail message => finish (fail (.failed .valueError message))

def Rule.procedure (rule : Rule) (v : Value) (c : Context) : Procedure :=
  match rule with
  | .builtin rule => rule.procedure v c
  | .composed _ parts => .concat (parts.map fun part => partProcedure part v c)

/-- A rule that applies no other rule by itself. -/
def Rule.Direct : Rule → Prop
  | .builtin _ => True
  | .composed _ parts => ∀ part ∈ parts, ∀ kind, part ≠ .delegate kind

/-- A rule that applies no other rule by itself does what its procedure does. -/
theorem applyWithin_eq_run (r : Registry) (n : Nat) {rule : Rule} (direct : rule.Direct) :
    applyWithin r (n + 1) rule v c = (rule.procedure v c).run (writeWithin r n) c := by
  rw [applyWithin.eq_def]
  dsimp only
  cases rule with
  | builtin rule => exact rule.run_procedure.symm
  | composed name parts =>
    rw [Rule.procedure, Procedure.run_concat, List.map_map]
    refine congrArg Emission.concat (List.map_congr_left fun part member => ?_)
    cases part with
    | text | accessor | parameter | fail => rfl
    | setting key =>
      simp only [Function.comp_apply, partProcedure]
      cases c.get? key with
      | none => rfl
      | some found => simp only [Procedure.run_attempt, Procedure.run_finish]
    | optional | plain =>
      simp only [Function.comp_apply, partProcedure, Procedure.run_attempt, Procedure.run_finish]
    | payload overrides =>
      cases v with
      | object kind core payload => cases payload <;> rfl
      | _ => rfl
    | procedure body => rfl
    | delegate kind => exact absurd rfl (direct _ member kind)

end TypstMarkup.Markup
