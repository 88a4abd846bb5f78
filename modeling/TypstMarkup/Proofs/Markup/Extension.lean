import TypstMarkup.Proofs.Markup.Calls
import TypstMarkup.Proofs.Markup.Budget

/-!
Extensions. Whatever is registered for a kind, a value is written as before unless a value of that
kind is met on the way: the value itself, what it stands for, or a value that some rule has written
further. Rules that apply other rules by themselves are left out, as they look a kind up without
having a value of it.
-/
namespace TypstMarkup.Markup

/-- What can be registered for a kind. -/
inductive Extension where
  | rule (rule : Rule)
  | supplier (supplier : Supplier)

namespace Registry

/-- Registers an extension for a kind. -/
def extend (r : Registry) (kind : Kind) : Extension → Registry
  | .rule rule => r.addRule kind rule
  | .supplier supplier => r.addSupplier kind supplier

/-- Whether a value is of a kind, by derivation or because its kind is counted among that one. -/
def IsInstance (r : Registry) (v : Value) (kind : Kind) : Prop :=
  kind ∈ r.searchPath v.kind

instance (r : Registry) (v : Value) (kind : Kind) : Decidable (r.IsInstance v kind) :=
  inferInstanceAs (Decidable (kind ∈ r.searchPath v.kind))

/-- No rule applies another one by itself. -/
def Direct (r : Registry) : Prop := ∀ entry ∈ r.rules, entry.2.Direct

end Registry

/-! ### Registries without delegation -/

theorem Table.mem_of_mem_register {α : Type} {table : Table α} {kind : Kind} {e : α}
    {entry : Kind × α} (member : entry ∈ table.register kind e) :
    entry ∈ table ∨ entry = (kind, e) := by
  induction table with
  | nil => exact .inr (List.mem_singleton.1 member)
  | cons first rest ih =>
    unfold register at member
    split at member
    · rename_i same
      rcases List.mem_cons.1 member with rfl | later
      · exact .inr (by rw [same])
      · exact .inl (List.mem_cons_of_mem _ later)
    · rcases List.mem_cons.1 member with rfl | later
      · exact .inl List.mem_cons_self
      · exact (ih later).imp_left (List.mem_cons_of_mem _)

namespace Registry

variable {r : Registry}

theorem direct_builtin : builtin.Direct := by
  intro entry member
  obtain ⟨rule, same⟩ := exists_of_mem_builtinRules member
  rw [same]
  trivial

theorem Direct.addRule (direct : r.Direct) (kind : Kind) {rule : Rule} (also : rule.Direct) :
    (r.addRule kind rule).Direct := by
  intro entry member
  rcases Table.mem_of_mem_register member with old | rfl
  · exact direct entry old
  · exact also

theorem Direct.of_resolve (direct : r.Direct) {kind : Kind} {rule : Rule}
    (found : r.resolve kind = some rule) : rule.Direct := by
  obtain ⟨k, -, listed⟩ := Table.mem_of_firstOn found
  exact direct _ listed

/-! ### What is found after a registration -/

variable (kind : Kind) (extension : Extension) {v : Value} (other : ¬r.IsInstance v kind)

include other

theorem resolve_extend : (r.extend kind extension).resolve v.kind = r.resolve v.kind := by
  cases extension with
  | rule rule => exact Table.firstOn_register_of_notMem r.rules rule other
  | supplier => rfl

theorem kindDefaults_extend : (r.extend kind extension).kindDefaults v = r.kindDefaults v := by
  cases extension with
  | rule => rfl
  | supplier supplier =>
    have same : (r.extend kind (.supplier supplier)).defaults.firstOn
        ((r.extend kind (.supplier supplier)).searchPath v.kind) =
          r.defaults.firstOn (r.searchPath v.kind) :=
      Table.firstOn_register_of_notMem r.defaults supplier other
    unfold kindDefaults
    rw [same]

theorem asRegistered_extend : asRegistered (r.extend kind extension) v = asRegistered r v := by
  rw [asRegistered, resolve_extend kind extension other, asRegistered]

end Registry

/-! ### The values met -/

/-- The values met while a value is written within a budget of nested calls: the value, what it
stands for, and the values met where its rule calls for further ones. -/
def visitedWithin (r : Registry) : Nat → Value → Context → List Value
  | 0, _, _ => []
  | n + 1, v, c =>
    v :: match asRegistered r v with
      | .error _ => []
      | .ok shown =>
        shown :: match r.resolve shown.kind, n with
          | some rule, n + 1 =>
            let filled := c.fill (r.kindDefaults shown)
            ((rule.procedure shown filled).calls (writeWithin r n) filled).flatMap fun called =>
              visitedWithin r n called.1 called.2
          | _, _ => []

/-- The values met while a value is written. -/
def visited (r : Registry) (v : Value) (c : Context) : List Value :=
  visitedWithin r (budget r v) v c

/-- No value among several is of a kind. -/
def Avoids (r : Registry) (kind : Kind) (values : List Value) : Prop :=
  ∀ x ∈ values, ¬r.IsInstance x kind

instance (r : Registry) (kind : Kind) (values : List Value) : Decidable (Avoids r kind values) :=
  inferInstanceAs (Decidable (∀ x ∈ values, ¬r.IsInstance x kind))

section

variable {r : Registry} {v shown : Value} {c : Context}

theorem mem_visitedWithin_self (n : Nat) : v ∈ visitedWithin r (n + 1) v c := by
  rw [visitedWithin]
  exact List.mem_cons_self

theorem mem_visited_self (r : Registry) (v : Value) (c : Context) : v ∈ visited r v c := by
  have positive : ∃ n, budget r v = n + 1 := by
    unfold budget
    split
    · exact ⟨_, rfl⟩
    · exact ⟨0, rfl⟩
  obtain ⟨n, enough⟩ := positive
  rw [visited, enough]
  exact mem_visitedWithin_self n

theorem mem_visitedWithin_shown (stands : asRegistered r v = .ok shown) (n : Nat) :
    shown ∈ visitedWithin r (n + 1) v c := by
  rw [visitedWithin, stands]
  exact List.mem_cons_of_mem _ List.mem_cons_self

theorem mem_visitedWithin_called (stands : asRegistered r v = .ok shown) {rule : Rule}
    (found : r.resolve shown.kind = some rule) {n : Nat} {called : Value × Context}
    (calls : called ∈ (rule.procedure shown (c.fill (r.kindDefaults shown))).calls
      (writeWithin r n) (c.fill (r.kindDefaults shown)))
    {x : Value} (member : x ∈ visitedWithin r n called.1 called.2) :
    x ∈ visitedWithin r (n + 2) v c := by
  rw [visitedWithin, stands]
  dsimp only
  rw [found]
  exact List.mem_cons_of_mem _ (List.mem_cons_of_mem _ (List.mem_flatMap.2 ⟨called, calls, member⟩))

variable (direct : r.Direct) (kind : Kind) (extension : Extension)

include direct

theorem writeWithin_extend (n : Nat) (avoids : Avoids r kind (visitedWithin r n v c)) :
    writeWithin (r.extend kind extension) n v c = writeWithin r n v c := by
  induction n using Nat.strongRecOn generalizing v c with
  | ind n ih =>
    cases n with
    | zero => rfl
    | succ n =>
      have here := avoids v (mem_visitedWithin_self n)
      rw [writeWithin, writeWithin, Registry.asRegistered_extend kind extension here]
      cases stands : asRegistered r v with
      | error f => rfl
      | ok shown =>
        have there := avoids shown (mem_visitedWithin_shown stands n)
        simp only [Emission.attempt, Registry.resolve_extend kind extension there,
          Registry.kindDefaults_extend kind extension there]
        cases found : r.resolve shown.kind with
        | none => rfl
        | some rule =>
          cases n with
          | zero => rfl
          | succ n =>
            have alone := direct.of_resolve found
            dsimp only
            rw [applyWithin_eq_run _ n alone, applyWithin_eq_run _ n alone]
            -- What the rule calls for is decided by what was written before.
            refine (Procedure.run_congr _ fun called calls => ?_).symm
            refine (ih n (by omega) fun x member => ?_).symm
            exact avoids x (mem_visitedWithin_called stands found calls member)

theorem write_extend (avoids : Avoids r kind (visited r v c)) :
    write (r.extend kind extension) v c = write r v c := by
  have here := avoids v (mem_visited_self r v c)
  have same : budget (r.extend kind extension) v = budget r v := by
    rw [budget, Registry.asRegistered_extend kind extension here, budget]
  rw [write, same, write]
  exact writeWithin_extend direct kind extension _ avoids

end

def noteKind : Kind := .declared "notes" "Note"

/-- A registry with a rule that has what an object carries written twice, in code only if it could
be written at all. -/
def noting : Registry :=
  Registry.builtin.addRule noteKind (.composed "show_note"
    [.text "note(", .payload [("mode", .mode .math)], .procedure fun v _ =>
      match v with
      | .object _ _ (some payload) => .call payload true [("mode", .mode .code)] fun e =>
        if e.fault.isSome then .finish (.text ['-']) else .call (.str "again") true [] .finish
      | _ => .finish (.text []), .text ")"])

theorem direct_noting : noting.Direct :=
  Registry.direct_builtin.addRule noteKind (by simp [Rule.Direct])

/-- A note that carries a grid with a character, a progression of no numbers and a raw text. -/
def note : Value :=
  .object noteKind none (some (.array (.declared "grids" "Grid") (.int 2)
    (.list [.tuple [.char 'x', .null], .list [.raw "y" "py", .pattern (.text "z" {})]]) true))

end TypstMarkup.Markup
