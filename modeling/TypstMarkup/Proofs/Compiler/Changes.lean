import TypstMarkup.Compiler.Command
import TypstMarkup.Proofs.OrderedMap

/-!
Commands that are changed step by step. A change touches the variables of a command or whether it
tolerates failure, and nothing else. Variables are kept in the order of their names, which loses
none of them. Once the variables are replaced, only what is added afterwards counts.
-/
namespace TypstMarkup

namespace Compiler

/-- Sorting the variables by name keeps the value of each. -/
theorem Variables.get?_toMap_ofMap (m : OrderedMap String) (name : String) :
    (toMap (ofMap m)).get? name = m.get? name := by
  have perm : (ofMap m).Perm m.entries := List.mergeSort_perm _ _
  have distinct : ((ofMap m).map Prod.fst).Nodup :=
    (perm.map Prod.fst).nodup_iff.2 m.nodup_keys
  rw [toMap, OrderedMap.ofList, OrderedMap.get?_insertAll _ distinct,
    OrderedMap.find?_congr_perm perm distinct, OrderedMap.get?_empty, Option.or_none]
  rfl

/-! ### Changes -/

inductive Change where
  | tolerate
  | add (environment : OrderedMap String)
  | replace (environment : OrderedMap String)

/-- The command with a change. -/
def Command.change (c : Command) : Change → Command
  | .tolerate => c.tolerating
  | .add environment => c.adding environment
  | .replace environment => c.replacing environment

/-- The command with changes made one after the other. -/
def Command.changed (c : Command) (changes : List Change) : Command :=
  changes.foldl change c

/-- The variables that a change adds, if it adds any. -/
def Change.added? : Change → Option (OrderedMap String)
  | .add environment => some environment
  | _ => none

/-- Variables overridden by those that changes add. -/
def overridden (environment : OrderedMap String) (changes : List Change) : OrderedMap String :=
  (changes.filterMap Change.added?).foldl .update environment

namespace Command

variable (c : Command)

theorem changed_append (before after : List Change) :
    c.changed (before ++ after) = (c.changed before).changed after :=
  List.foldl_append

theorem parameters_changed (changes : List Change) :
    (c.changed changes).parameters = c.parameters := by
  induction changes generalizing c with
  | nil => rfl
  | cons change rest ih =>
    rw [changed, List.foldl_cons, ← changed, ih]
    cases change <;> rfl

/-- A command tolerates failure if it did at first or was told to by a change. -/
theorem toleratesFailure_changed (changes : List Change) :
    (c.changed changes).toleratesFailure = true ↔
      c.toleratesFailure = true ∨ Change.tolerate ∈ changes := by
  induction changes generalizing c with
  | nil => simp [changed]
  | cons change rest ih =>
    rw [changed, List.foldl_cons, ← changed, ih, List.mem_cons]
    cases change with
    | tolerate => simp [Command.change, tolerating, build]
    | add environment => simp [Command.change, adding, build]
    | replace environment => simp [Command.change, replacing, build]

/-- Whether the inherited variables are replaced is not touched unless a change replaces them. -/
theorem isNone_replaced_changed {changes : List Change} (kept : ∀ m, Change.replace m ∉ changes) :
    (c.changed changes).replaced.isNone = c.replaced.isNone := by
  induction changes generalizing c with
  | nil => rfl
  | cons change rest ih =>
    have later : ∀ m, Change.replace m ∉ rest := fun m member =>
      kept m (List.mem_cons_of_mem _ member)
    rw [changed, List.foldl_cons, ← changed, ih _ later]
    cases change with
    | tolerate | add => simp [Command.change, tolerating, adding, build, replacedMap]
    | replace m => exact absurd List.mem_cons_self (kept m)

/-- The variables that a command adds, or else those it replaces the inherited ones by. -/
theorem get?_environment_request (name : String) :
    c.request.environment.get? name =
      (c.addedMap.get? name).or ((c.replacedMap.getD .empty).get? name) := by
  rw [request, OrderedMap.get?_update, addedMap, replacedMap]
  cases c.replaced <;> rfl

theorem get?_environment_build (parameters : List String) (tolerates : Bool)
    (replaced : Option (OrderedMap String)) (added : OrderedMap String)
    (executable : Option String) (name : String) :
    (build parameters tolerates replaced added executable).request.environment.get? name =
      (added.get? name).or ((replaced.getD .empty).get? name) := by
  rw [get?_environment_request, build, addedMap, replacedMap, Variables.get?_toMap_ofMap]
  cases replaced with
  | none => rfl
  | some environment => exact congrArg _ (Variables.get?_toMap_ofMap environment name)

theorem get?_environment_tolerating (name : String) :
    c.tolerating.request.environment.get? name = c.request.environment.get? name := by
  rw [tolerating, get?_environment_build, get?_environment_request]

theorem get?_environment_adding (environment : OrderedMap String) (name : String) :
    (c.adding environment).request.environment.get? name =
      (environment.get? name).or (c.request.environment.get? name) := by
  rw [adding, get?_environment_build, get?_environment_request, OrderedMap.get?_update,
    Option.or_assoc]

theorem get?_environment_replacing (environment : OrderedMap String) (name : String) :
    (c.replacing environment).request.environment.get? name = environment.get? name := by
  rw [replacing, get?_environment_build]
  rfl

/-- One change at a time: what a command asks for is overridden by what changes add, as long as
none of them replaces it. -/
theorem get?_environment_changed {changes : List Change}
    (kept : ∀ m, Change.replace m ∉ changes) {environment : OrderedMap String}
    (asked : ∀ name, c.request.environment.get? name = environment.get? name) (name : String) :
    (c.changed changes).request.environment.get? name =
      (overridden environment changes).get? name := by
  induction changes generalizing c environment with
  | nil => exact asked name
  | cons change rest ih =>
    have later : ∀ m, Change.replace m ∉ rest := fun m member =>
      kept m (List.mem_cons_of_mem _ member)
    rw [changed, List.foldl_cons, ← changed]
    cases change with
    | tolerate =>
      have asked (name : String) : c.tolerating.request.environment.get? name =
          environment.get? name := (c.get?_environment_tolerating name).trans (asked name)
      exact ih c.tolerating later asked
    | add m =>
      have added (name : String) : (c.adding m).request.environment.get? name =
          (environment.update m).get? name := by
        rw [get?_environment_adding, asked, OrderedMap.get?_update]
      exact ih (c.adding m) later added
    | replace m => exact absurd List.mem_cons_self (kept m)

end Command

end Compiler

end TypstMarkup
