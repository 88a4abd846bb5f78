import Mathlib.Data.List.DropRight
import Mathlib.Data.List.Nodup
import TypstMarkup.Proofs.Compiler.Changes

/-!
Commands that were changed have a normal form. A command is determined by its parameters and its
program, whether it tolerates failure, and the value of each variable that it replaces the inherited
ones by or adds to them; the order in which variables were set is lost when they are sorted. Of a
list of changes, only the last replacement counts, and of what is added after it, the last value of
each variable.
-/
namespace TypstMarkup.Compiler

/-! ### Variables in order -/

namespace Variables

/-- Variables in the order of their names, each of them once. -/
def InOrder (vs : Variables) : Prop :=
  vs.Pairwise fun a b => a.1 < b.1

theorem InOrder.distinct {vs : Variables} (ordered : vs.InOrder) : (vs.map Prod.fst).Nodup := by
  rw [List.nodup_iff_pairwise_ne, List.pairwise_map]
  refine List.Pairwise.imp (fun {a b} before same => ?_) ordered
  rw [same] at before
  exact String.lt_irrefl _ before

theorem inOrder_ofMap (m : OrderedMap String) : (ofMap m).InOrder := by
  have sorted : (ofMap m).Pairwise fun a b => decide (a.1 ≤ b.1) = true :=
    List.pairwise_mergeSort
      (fun a b c first second => by
        rw [decide_eq_true_iff] at first second ⊢
        exact String.le_trans first second)
      (fun a b => by
        rw [Bool.or_eq_true, decide_eq_true_iff, decide_eq_true_iff]
        exact String.le_total _ _)
      m.entries
  have distinct : ((ofMap m).map Prod.fst).Nodup :=
    ((List.mergeSort_perm _ _).map Prod.fst).nodup_iff.2 m.nodup_keys
  rw [List.nodup_iff_pairwise_ne, List.pairwise_map] at distinct
  refine List.Pairwise.imp (fun {a b} both => ?_) (sorted.and distinct)
  exact String.not_le.1 fun behind =>
    both.2 (String.le_antisymm (of_decide_eq_true both.1) behind)

theorem entries_toMap {vs : Variables} (ordered : vs.InOrder) : (toMap vs).entries = vs :=
  OrderedMap.entries_insertAll .empty ordered.distinct

/-- Variables in order are determined by the value of each name. -/
theorem InOrder.ext {vs ws : Variables} (ordered : vs.InOrder) (others : ws.InOrder)
    (values : ∀ name, (toMap vs).get? name = (toMap ws).get? name) : vs = ws := by
  have member (us : Variables) (sorted : us.InOrder) (entry : String × String) :
      entry ∈ us ↔ (toMap us).get? entry.1 = some entry.2 := by
    rw [OrderedMap.get?_eq_some_iff, entries_toMap sorted]
  have same : vs.Perm ws := by
    rw [List.perm_ext_iff_of_nodup (List.Nodup.of_map _ ordered.distinct)
      (List.Nodup.of_map _ others.distinct)]
    intro entry
    rw [member vs ordered, member ws others, values]
  exact same.eq_of_pairwise
    (fun _ _ _ _ before behind => absurd (String.lt_trans before behind) (String.lt_irrefl _))
    ordered others

/-- The same for variables that may be missing. -/
theorem ext_of_map_get? {vs ws : Option Variables} (ordered : ∀ us, vs = some us → us.InOrder)
    (others : ∀ us, ws = some us → us.InOrder)
    (values : (vs.map toMap).map OrderedMap.get? = (ws.map toMap).map OrderedMap.get?) :
    vs = ws := by
  cases vs with
  | none =>
    cases ws with
    | none => rfl
    | some us => cases values
  | some us =>
    cases ws with
    | none => cases values
    | some us' =>
      have same := (ordered us rfl).ext (others us' rfl) (congrFun (Option.some.inj values))
      rw [same]

end Variables

/-- Whether the variables of a command are in order, as they are once it has been built. -/
structure Command.InOrder (c : Command) : Prop where
  replaced : ∀ vs, c.replaced = some vs → vs.InOrder
  added : c.added.InOrder

namespace Command

theorem inOrder_build (parameters : List String) (tolerates : Bool)
    (replaced : Option (OrderedMap String)) (added : OrderedMap String)
    (executable : Option String) :
    (build parameters tolerates replaced added executable).InOrder where
  replaced vs present := by
    obtain ⟨environment, -, rfl⟩ := Option.map_eq_some_iff.1 present
    exact Variables.inOrder_ofMap environment
  added := Variables.inOrder_ofMap added

/-- Whether a command comes from its parts, as all commands do. -/
def IsBuilt (c : Command) : Prop :=
  ∃ parameters tolerates replaced added executable,
    c = build parameters tolerates replaced added executable

theorem IsBuilt.inOrder {c : Command} (built : c.IsBuilt) : c.InOrder := by
  obtain ⟨parameters, tolerates, replaced, added, executable, rfl⟩ := built
  exact inOrder_build parameters tolerates replaced added executable

theorem inOrder_change (c : Command) (change : Change) : (c.change change).InOrder := by
  cases change with
  | tolerate | add | replace => exact inOrder_build ..

theorem InOrder.changed {c : Command} (ordered : c.InOrder) (changes : List Change) :
    (c.changed changes).InOrder := by
  cases changes using List.reverseRecOn with
  | nil => exact ordered
  | append_singleton before last =>
    rw [changed_append]
    exact inOrder_change _ last

end Command

/-! ### What a command comes to -/

/-- What a command comes to: its parts, the variables by the value of each name. -/
@[ext]
structure View where
  parameters : List String
  toleratesFailure : Bool
  replaced : Option (String → Option String)
  added : String → Option String
  executable : Option String

/-- What a command comes to. -/
def Command.view (c : Command) : View where
  parameters := c.parameters
  toleratesFailure := c.toleratesFailure
  replaced := c.replacedMap.map OrderedMap.get?
  added := c.addedMap.get?
  executable := c.executable

namespace Command

theorem view_build (parameters : List String) (tolerates : Bool)
    (replaced : Option (OrderedMap String)) (added : OrderedMap String)
    (executable : Option String) :
    (build parameters tolerates replaced added executable).view =
      ⟨parameters, tolerates, replaced.map OrderedMap.get?, added.get?, executable⟩ := by
  have kept (m : OrderedMap String) : (Variables.toMap (.ofMap m)).get? = m.get? :=
    funext (Variables.get?_toMap_ofMap m)
  ext1
  · rfl
  · rfl
  · cases replaced with
    | none => rfl
    | some environment => exact congrArg some (kept environment)
  · exact kept added
  · rfl

/-- Commands that come to the same are equal, once their variables are in order. -/
theorem InOrder.view_inj {c d : Command} (ordered : c.InOrder) (others : d.InOrder) :
    c.view = d.view ↔ c = d := by
  refine ⟨fun same => ?_, congrArg view⟩
  have added : c.added = d.added :=
    ordered.added.ext others.added (congrFun (congrArg View.added same))
  have replaced : c.replaced = d.replaced :=
    Variables.ext_of_map_get? ordered.replaced others.replaced (congrArg View.replaced same)
  cases c
  cases d
  obtain ⟨rfl, rfl, -, -, rfl⟩ := View.mk.inj same
  cases added
  cases replaced
  rfl

end Command

/-! ### One change -/

/-- What a command comes to after a change. -/
def View.change (v : View) : Change → View
  | .tolerate => { v with toleratesFailure := true }
  | .add environment => { v with added := fun name => (environment.get? name).or (v.added name) }
  | .replace environment => { v with replaced := some environment.get?, added := fun _ => none }

theorem Command.view_change (c : Command) (change : Change) :
    (c.change change).view = c.view.change change := by
  cases change with
  | tolerate => exact view_build ..
  | add environment =>
    have added : (c.addedMap.update environment).get? = (c.view.change (.add environment)).added :=
      funext (OrderedMap.get?_update _ _)
    refine (view_build ..).trans ?_
    rw [added]
    rfl
  | replace environment => exact view_build ..

/-- Whether a change sets a variable. A replacement sets every variable: those that it does not
name are gone. -/
def Change.Sets : Change → String → Prop
  | .tolerate, _ => False
  | .add environment, name => (environment.get? name).isSome
  | .replace _, _ => True

/-- Whether two changes set different variables. -/
def Change.Apart (a b : Change) : Prop :=
  ∀ name, ¬(a.Sets name ∧ b.Sets name)

/-- An addition that is apart from a change that sets every variable adds nothing. -/
theorem Change.Apart.get?_eq_none {environment : OrderedMap String} {b : Change}
    (apart : (Change.add environment).Apart b) {name : String} (set : b.Sets name) :
    environment.get? name = none := by
  have unset : ¬(environment.get? name).isSome := fun present => apart name ⟨present, set⟩
  simpa using unset

theorem Change.Apart.symm {a b : Change} (apart : a.Apart b) : b.Apart a :=
  fun name both => apart name both.symm

/-- Values that are added to different variables do not hide each other. -/
theorem Change.Apart.or_comm {m n : OrderedMap String} (apart : (Change.add m).Apart (.add n))
    (name : String) (text : Option String) :
    (n.get? name).or ((m.get? name).or text) = (m.get? name).or ((n.get? name).or text) := by
  by_cases set : (n.get? name).isSome
  · rw [apart.get?_eq_none (show (Change.add n).Sets name from set), Option.none_or, Option.none_or]
  · rw [Option.not_isSome_iff_eq_none.1 set, Option.none_or, Option.none_or]

theorem View.change_comm (v : View) {a b : Change} (apart : a.Apart b) :
    (v.change a).change b = (v.change b).change a := by
  -- what a replacement is apart from adds nothing, so it is the same above the replacement
  have replaced {m n : OrderedMap String} (apart : (Change.add m).Apart (.replace n)) :
      (v.change (.add m)).change (.replace n) = (v.change (.replace n)).change (.add m) := by
    have added : (fun _ : String => (none : Option String)) =
        fun name => (m.get? name).or none := by
      funext name
      rw [apart.get?_eq_none (show (Change.replace n).Sets name from trivial), Option.none_or]
    exact congrArg (fun added => { v with replaced := some n.get?, added }) added
  cases a with
  | tolerate => cases b <;> rfl
  | add m =>
    cases b with
    | tolerate => rfl
    | add n =>
      exact congrArg (fun added => { v with added })
        (funext fun name => apart.or_comm name (v.added name))
    | replace n => exact replaced apart
  | replace m =>
    cases b with
    | tolerate => rfl
    | add n => exact (replaced apart.symm).symm
    | replace n => exact absurd ⟨trivial, trivial⟩ (apart "")

/-! ### Lists of changes -/

/-- Whether a change makes a command tolerate failure. -/
def Change.tolerates : Change → Bool
  | .tolerate => true
  | _ => false

/-- The variables that a change replaces all others by, if it does. -/
def Change.replacement? : Change → Option (OrderedMap String)
  | .replace environment => some environment
  | _ => none

/-- The value that a change adds a variable with, if it does. -/
def Change.addition? (name : String) (change : Change) : Option String :=
  change.added?.bind fun environment => environment.get? name

/-- The changes after the last replacement. -/
def sinceReplacement (changes : List Change) : List Change :=
  changes.rtakeWhile fun change => change.replacement?.isNone

/-- The normal form of changes: what a command comes to after them. It tolerates failure if it did
at first or was told to. Its variables are those of the last replacement, or else of the command,
and what is added to them is the last value that each variable was added with since then, above what
was added at first only if nothing was replaced. -/
def View.after (v : View) (changes : List Change) : View where
  parameters := v.parameters
  toleratesFailure := v.toleratesFailure || changes.any Change.tolerates
  replaced := ((lastOf Change.replacement? changes).map OrderedMap.get?).or v.replaced
  added name := (lastOf (Change.addition? name) (sinceReplacement changes)).or
    (if (lastOf Change.replacement? changes).isSome then none else v.added name)
  executable := v.executable

theorem View.after_nil (v : View) : v.after [] = v :=
  congrArg (fun tolerates => { v with toleratesFailure := tolerates }) (Bool.or_false _)

theorem lastOf_replacement_concat (changes : List Change) (change : Change) :
    lastOf Change.replacement? (changes ++ [change]) =
      change.replacement?.or (lastOf Change.replacement? changes) := by
  rw [lastOf_append, lastOf_singleton]

/-- A change that replaces nothing is the last to add what it adds. -/
theorem lastOf_addition_concat {change : Change} (kept : change.replacement? = none)
    (changes : List Change) (name : String) :
    lastOf (Change.addition? name) (sinceReplacement (changes ++ [change])) =
      (change.addition? name).or
        (lastOf (Change.addition? name) (sinceReplacement changes)) := by
  have longer : sinceReplacement (changes ++ [change]) = sinceReplacement changes ++ [change] :=
    List.rtakeWhile_concat_pos _ _ _ (by rw [kept]; rfl)
  rw [longer, lastOf_append, lastOf_singleton]

theorem sinceReplacement_replace (changes : List Change) (environment : OrderedMap String) :
    sinceReplacement (changes ++ [.replace environment]) = [] :=
  List.rtakeWhile_concat_neg _ _ _ Bool.false_ne_true

/-- One more change is made to what the others come to. -/
theorem View.after_concat (v : View) (changes : List Change) (change : Change) :
    v.after (changes ++ [change]) = (v.after changes).change change := by
  have tolerates : (v.after (changes ++ [change])).toleratesFailure =
      ((v.after changes).change change).toleratesFailure := by
    cases change <;> simp [View.after, View.change, Change.tolerates]
  have replaced : (v.after (changes ++ [change])).replaced =
      ((v.after changes).change change).replaced := by
    simp only [View.after, lastOf_replacement_concat]
    cases change <;> rfl
  have added : (v.after (changes ++ [change])).added =
      ((v.after changes).change change).added := by
    funext name
    simp only [View.after, lastOf_replacement_concat]
    cases change with
    | tolerate =>
      rw [lastOf_addition_concat rfl]
      rfl
    | add environment =>
      rw [lastOf_addition_concat rfl, Option.or_assoc]
      rfl
    | replace environment =>
      rw [sinceReplacement_replace]
      rfl
  refine View.ext ?_ tolerates replaced added ?_
  · cases change <;> rfl
  · cases change <;> rfl

namespace Command

theorem view_changed (c : Command) (changes : List Change) :
    (c.changed changes).view = c.view.after changes := by
  induction changes using List.reverseRecOn with
  | nil => exact c.view.after_nil.symm
  | append_singleton before last ih =>
    rw [View.after_concat, ← ih, changed_append]
    exact view_change _ last

theorem changed_swap (c : Command) (before after : List Change) {a b : Change}
    (apart : a.Apart b) :
    c.changed (before ++ a :: b :: after) = c.changed (before ++ b :: a :: after) := by
  rw [changed_append, changed_append]
  generalize c.changed before = c
  have swapped : (c.change a).change b = (c.change b).change a := by
    refine ((inOrder_change _ b).view_inj (inOrder_change _ a)).1 ?_
    simp only [view_change, View.change_comm _ apart]
  exact congrArg (changed · after) swapped

/-! ### Commands from texts -/

/-- A text is cut into parameters at single spaces, and shown with them again. -/
theorem shown_ofText (text : String) : (ofText text).shown = "typst\x60" ++ text ++ "\x60" := by
  have joined : " ".intercalate (ofText text).parameters = text := by
    rw [ofText, build]
    split
    · rename_i empty
      rw [String.isEmpty_iff] at empty
      rw [empty]
      rfl
    · rw [← String.toList_inj, String.toList_intercalate, List.map_map]
      have parts : String.toList ∘ String.ofList = id := funext fun _ => String.toList_ofList
      rw [parts, List.map_id]
      exact List.intercalate_splitOn ' '
  rw [shown, joined]

/-! ### The normal form -/

/-- What changes make of a command is their normal form, whatever their number and order: its
parameters and its program stay, and its variables are in order again. Commands have the same normal
form exactly if they are equal, and then their fingerprints are. Changes that set different
variables can be made in either order. A command from a text is shown with that text. -/
theorem changes_have_normal_form {c : Command} (built : c.IsBuilt) (changes : List Change) :
    (c.changed changes).view = c.view.after changes ∧
      (c.changed changes).InOrder ∧
      (∀ (d : Command) (others : List Change), d.IsBuilt →
        (c.view.after changes = d.view.after others ↔ c.changed changes = d.changed others) ∧
        (c.view.after changes = d.view.after others →
          (c.changed changes).fingerprint = (d.changed others).fingerprint)) ∧
      (∀ (before after : List Change) (a b : Change), a.Apart b →
        c.changed (before ++ a :: b :: after) = c.changed (before ++ b :: a :: after)) ∧
      ∀ text, (ofText text).shown = "typst\x60" ++ text ++ "\x60" := by
  have equal (d : Command) (others : List Change) (builtToo : d.IsBuilt) :
      c.view.after changes = d.view.after others ↔ c.changed changes = d.changed others := by
    rw [← view_changed, ← view_changed]
    exact (built.inOrder.changed changes).view_inj (builtToo.inOrder.changed others)
  refine ⟨c.view_changed changes, built.inOrder.changed changes,
    fun d others builtToo => ⟨equal d others builtToo, fun same => ?_⟩,
    fun before after a b apart => c.changed_swap before after apart, shown_ofText⟩
  rw [(equal d others builtToo).1 same]

/-- Additions before a replacement and values that are overridden leave no trace. -/
theorem changes_have_normal_form_overridden :
    let c := build ["help"] false none (OrderedMap.ofList [("A", "0")])
    let a := Change.add (OrderedMap.ofList [("A", "1")])
    let b := Change.add (OrderedMap.ofList [("B", "2")])
    let b' := Change.add (OrderedMap.ofList [("B", "4"), ("A", "1")])
    let alone := Change.replace (OrderedMap.ofList [("C", "3")])
    c.IsBuilt ∧ a.Apart b ∧
      c.changed [a, alone, b, .tolerate, b'] = c.changed [.tolerate, alone, b'] ∧
      c.changed [b, a] = c.changed [a, b] ∧
      (c.changed [b, a]).view.added "A" = some "1" ∧
      (c.changed [a, alone, b, .tolerate, b']).view.added "B" = some "4" ∧
      (ofText "").shown = "typst\x60\x60" := by
  intro c a b b' alone
  have built : c.IsBuilt := ⟨_, _, _, _, _, rfl⟩
  have unset {name : String} (other : name ≠ "B") : b.addition? name = none :=
    OrderedMap.get?_insert_of_ne .empty "2" other
  have apart : a.Apart b := by
    rintro name ⟨first, second⟩
    by_cases named : name = "B"
    · subst named
      exact Bool.false_ne_true first
    · change (b.addition? name).isSome at second
      rw [unset named] at second
      cases second
  have added : (c.view.after [a, alone, b, .tolerate, b']).added =
      (c.view.after [.tolerate, alone, b']).added := by
    funext name
    change (lastOf (Change.addition? name) [b, .tolerate, b']).or none =
      (lastOf (Change.addition? name) [b']).or none
    by_cases named : name = "B"
    · subst named
      rfl
    · rw [lastOf_cons, unset named, lastOf_cons]
      simp [Change.addition?, Change.added?]
  have same : c.view.after [a, alone, b, .tolerate, b'] = c.view.after [.tolerate, alone, b'] :=
    View.ext rfl rfl rfl added rfl
  obtain ⟨long, -, equal, -, -⟩ := changes_have_normal_form built [a, alone, b, .tolerate, b']
  obtain ⟨short, -, -, swap, shown⟩ := changes_have_normal_form built [b, a]
  refine ⟨built, apart, (equal c _ built).1.1 same, (swap [] [] a b apart).symm, ?_, ?_, shown ""⟩
  · rw [short]
    rfl
  · rw [long]
    rfl

end Command

end TypstMarkup.Compiler
