import Mathlib.Data.List.Induction
import TypstMarkup.Proofs.Markup.Lineage
import TypstMarkup.Proofs.Markup.Budget

/-!
Finding rules. A value is written by the rule that was registered last for the most specific of its
kinds that has one, in whatever order kinds were registered. Only the list of kinds shows an order,
that of their first registrations.
-/
namespace TypstMarkup.Markup

/-! ### Registrations -/

namespace Table

variable {α : Type} {entries others : List (Kind × α)}

def registerAll (table : Table α) (entries : List (Kind × α)) : Table α :=
  entries.foldl (fun table entry => table.register entry.1 entry.2) table

/-- What a kind was given last. -/
def last? (entries : List (Kind × α)) (kind : Kind) : Option α :=
  (entries.filter fun entry => entry.1 == kind).getLast?.map Prod.snd

/-- Registrations in another order, but in the same one for each kind. -/
def Rearranged (entries others : List (Kind × α)) : Prop :=
  ∀ kind, entries.filter (fun entry => entry.1 == kind) =
    others.filter fun entry => entry.1 == kind

theorem registerAll_append (table : Table α) (entries others : List (Kind × α)) :
    table.registerAll (entries ++ others) = (table.registerAll entries).registerAll others :=
  List.foldl_append

theorem last?_concat (entries : List (Kind × α)) (entry : Kind × α) (kind : Kind) :
    last? (entries ++ [entry]) kind =
      if entry.1 = kind then some entry.2 else last? entries kind := by
  unfold last?
  by_cases same : entry.1 = kind
  · simp [same]
  · simp [same]

theorem get?_registerAll (entries : List (Kind × α)) (kind : Kind) :
    get? (registerAll [] entries) kind = last? entries kind := by
  induction entries using List.reverseRecOn with
  | nil => rfl
  | append_singleton entries entry ih =>
    rw [registerAll_append, last?_concat, ← ih]
    exact get?_register _ _ _ _

/-- Registrations of two kinds may change places. -/
theorem rearranged_swap (before after : List (Kind × α)) {a b : Kind × α} (distinct : a.1 ≠ b.1) :
    Rearranged (before ++ a :: b :: after) (before ++ b :: a :: after) := by
  intro kind
  by_cases first : a.1 = kind
  · have other : b.1 ≠ kind := first ▸ Ne.symm distinct
    simp [first, other]
  · simp [List.filter_cons, first]

theorem Rearranged.last? (same : Rearranged entries others) (kind : Kind) :
    Table.last? entries kind = Table.last? others kind := by
  rw [Table.last?, same kind, Table.last?]

theorem Rearranged.mem_iff (same : Rearranged entries others) (entry : Kind × α) :
    entry ∈ entries ↔ entry ∈ others := by
  have iff := congrArg (entry ∈ ·) (same entry.1)
  simpa using iff

theorem Rearranged.append (front : List (Kind × α)) (same : Rearranged entries others) :
    Rearranged (front ++ entries) (front ++ others) :=
  fun kind => by rw [List.filter_append, same kind, List.filter_append]

theorem keys_register (table : Table α) (kind : Kind) (entry : α) :
    (table.register kind entry).map Prod.fst =
      if kind ∈ table.map Prod.fst then table.map Prod.fst else table.map Prod.fst ++ [kind] := by
  induction table with
  | nil => rfl
  | cons first rest ih =>
    obtain ⟨k, e⟩ := first
    unfold register
    by_cases same : k = kind
    · simp [same]
    · simp only [if_neg same, List.map_cons, ih, List.mem_cons, Ne.symm same, false_or]
      split <;> rfl

/-- Kinds are kept in the order of their first registrations. -/
theorem keys_registerAll (entries : List (Kind × α)) :
    (registerAll [] entries).map Prod.fst = (entries.map Prod.fst).eraseDups := by
  induction entries using List.reverseRecOn with
  | nil => rfl
  | append_singleton entries entry ih =>
    have step := keys_register (registerAll [] entries) entry.1 entry.2
    rw [ih] at step
    rw [registerAll_append, List.map_append, List.eraseDups_append]
    refine step.trans ?_
    by_cases known : entry.1 ∈ entries.map Prod.fst <;>
      simp [List.removeAll, List.eraseDups_cons, known]

theorem nodup_keys_registerAll (entries : List (Kind × α)) :
    ((registerAll [] entries).map Prod.fst).Nodup := by
  induction entries using List.reverseRecOn with
  | nil => exact List.nodup_nil
  | append_singleton entries entry ih =>
    rw [registerAll_append]
    have step := keys_register (registerAll [] entries) entry.1 entry.2
    refine step ▸ ?_
    split
    · exact ih
    · rename_i fresh
      exact List.nodup_append.2 ⟨ih, List.pairwise_singleton _ _, fun k member k' other same =>
        fresh (List.mem_singleton.1 other ▸ same ▸ member)⟩

end Table

namespace Registry

def addRules (r : Registry) (rules : List (Kind × Rule)) : Registry :=
  rules.foldl (fun r entry => r.addRule entry.1 entry.2) r

theorem addRules_eq (r : Registry) (rules : List (Kind × Rule)) :
    r.addRules rules = { r with rules := r.rules.registerAll rules } := by
  induction rules generalizing r with
  | nil => rfl
  | cons entry rest ih => exact ih (r.addRule entry.1 entry.2)

/-! ### The search path -/

/-- Where values of a kind are looked up: the kinds of the lineage in their order, and the abstract
kinds that some of them are counted among. -/
structure SearchOrder (r : Registry) (kind : Kind) : Prop where
  first : (r.searchPath kind).head? = some kind
  last : (r.searchPath kind).getLast? = some .object
  kept : (r.lineage kind).Sublist (r.searchPath kind)
  whence : ∀ k ∈ r.searchPath kind,
    k ∈ r.lineage kind ∨ ∃ base ∈ r.lineage kind, k ∈ base.adopted
  integers : .int ∈ r.lineage kind → .integral ∉ r.lineage kind → ∃ before after,
    r.searchPath kind = before ++ .int :: .integral :: after ∧ .object ∈ after
  mappings : .dict ∈ r.lineage kind → .mapping ∉ r.lineage kind → ∃ before after,
    r.searchPath kind = before ++ .dict :: .mapping :: after ∧ .object ∈ after

variable {r : Registry}

/-- The kinds that a kind of a lineage contributes to the search path. -/
def contributed (line : List Kind) (k : Kind) : List Kind :=
  k :: k.adopted.filter fun a => !line.contains a

theorem searchPath_eq (r : Registry) (kind : Kind) :
    r.searchPath kind = (r.lineage kind).flatMap (contributed (r.lineage kind)) := rfl

theorem sublist_flatMap_contributed (line part : List Kind) :
    part.Sublist (part.flatMap (contributed line)) := by
  induction part with
  | nil => exact List.Sublist.slnil
  | cons k rest ih => exact (ih.trans (List.sublist_append_right _ _)).cons_cons k

/-- An adopted kind stands right behind the kind that it is adopted for, and before `object`. -/
theorem Ordered.exists_adopted (ordered : r.Ordered) {kind base first : Kind} {others : List Kind}
    (derives : base ∈ r.lineage kind) (adopts : base.adopted = first :: others)
    (absent : first ∉ r.lineage kind) : ∃ before after,
      r.searchPath kind = before ++ base :: first :: after ∧ .object ∈ after := by
  obtain ⟨early, lineage_eq⟩ := List.getLast?_eq_some_iff.1 (ordered.last kind)
  have notObject : base ≠ .object := by
    rintro rfl
    cases adopts
  have earlier : base ∈ early := by
    rw [lineage_eq] at derives
    simpa [notObject] using derives
  obtain ⟨before, after, rfl⟩ := List.append_of_mem earlier
  have contributes : contributed (r.lineage kind) base =
      base :: first :: others.filter fun a => !(r.lineage kind).contains a := by
    rw [contributed, adopts, List.filter_cons_of_pos (by simpa using absent)]
  refine ⟨before.flatMap (contributed (r.lineage kind)),
    (others.filter fun a => !(r.lineage kind).contains a) ++
      (after.flatMap (contributed (r.lineage kind)) ++ [.object]), ?_, by simp⟩
  rw [searchPath_eq]
  conv_lhs => arg 2; rw [lineage_eq]
  have top : contributed (r.lineage kind) .object = [.object] := rfl
  simp [contributes, top]

theorem Ordered.searchOrder (ordered : r.Ordered) (kind : Kind) : r.SearchOrder kind where
  first := by
    obtain ⟨rest, lineage_eq⟩ := List.head?_eq_some_iff.1 (ordered.first kind)
    rw [searchPath_eq]
    conv_lhs => arg 1; arg 2; rw [lineage_eq]
    rfl
  last := by
    obtain ⟨early, lineage_eq⟩ := List.getLast?_eq_some_iff.1 (ordered.last kind)
    rw [searchPath_eq]
    conv_lhs => arg 1; arg 2; rw [lineage_eq]
    simp [contributed, Kind.adopted]
  kept := sublist_flatMap_contributed _ _
  whence k member := by
    obtain ⟨base, derives, contributes⟩ := List.mem_flatMap.1 (searchPath_eq r kind ▸ member)
    rcases List.mem_cons.1 contributes with rfl | adopted
    · exact .inl derives
    · exact .inr ⟨base, derives, (List.mem_filter.1 adopted).1⟩
  integers derives absent := ordered.exists_adopted derives rfl absent
  mappings derives absent := ordered.exists_adopted derives rfl absent

/-! ### Views of a registry -/

/-- Everything that looks a rule up finds what resolution finds. -/
structure Agreeing (r : Registry) : Prop where
  isRegistered : ∀ kind, r.isRegistered kind ↔ ∃ rule, r.resolve kind = some rule
  ruleFor : ∀ v rule, r.ruleFor v = .ok rule ↔ r.resolve v.kind = some rule
  refuses : ∀ v, r.resolve v.kind = none → r.ruleFor v = .error (.unsupportedKind v.kind)
  standsForItself : ∀ v, (∃ rule, r.resolve v.kind = some rule) → asRegistered r v = .ok v
  writes : ∀ n v c, writeWithin r (n + 1) v c = .attempt (asRegistered r v) fun shown =>
    .attempt (r.ruleFor shown) fun rule =>
      applyWithin r n rule shown (c.fill (r.kindDefaults shown))
  lists : ∀ kind ∈ r.kinds, r.mapping.get? kind = r.resolve kind

theorem mem_kinds {kind : Kind} :
    kind ∈ r.kinds ↔ kind ∈ r.rules.map Prod.fst ∧ kind ≠ .object := by
  simp [kinds]

theorem resolve_of_own (ordered : r.Ordered) {kind : Kind} {rule : Rule}
    (own : r.rules.get? kind = some rule) : r.resolve kind = some rule := by
  obtain ⟨rest, path⟩ := List.head?_eq_some_iff.1 (ordered.searchOrder kind).first
  rw [resolve, Table.firstOn, path, List.findSome?_cons, own]

theorem get?_mapping {kind : Kind} (listed : kind ≠ .object) :
    r.mapping.get? kind = r.rules.get? kind := by
  unfold mapping Table.get?
  induction r.rules with
  | nil => rfl
  | cons entry rest ih =>
    by_cases same : entry.1 = kind
    · simp [same, listed]
    · by_cases isObject : entry.1 = .object
      · simpa [isObject, Ne.symm listed] using ih
      · simpa [isObject, same] using ih

theorem Ordered.agreeing (ordered : r.Ordered) : r.Agreeing where
  isRegistered kind := Option.isSome_iff_exists
  ruleFor v rule := by
    unfold ruleFor
    split <;> simp_all
  refuses v absent := by
    unfold ruleFor
    rw [absent]
  standsForItself v found := asRegistered_of_isSome (Option.isSome_iff_exists.2 found)
  writes n v c := by
    rw [writeWithin]
    refine congrArg (Emission.attempt _) (funext fun shown => ?_)
    cases resolved : r.resolve shown.kind <;> simp [ruleFor, resolved, Emission.attempt]
  lists kind listed := by
    obtain ⟨member, notObject⟩ := mem_kinds.1 listed
    obtain ⟨entry, present, rfl⟩ := List.mem_map.1 member
    have own : (r.rules.get? entry.1).isSome := by
      rw [Table.get?, Option.isSome_map, List.find?_isSome]
      exact ⟨entry, present, by simp⟩
    obtain ⟨rule, found⟩ := Option.isSome_iff_exists.1 own
    rw [get?_mapping notObject, found, resolve_of_own ordered found]

/-! ### Registering rules -/

theorem builtinRules_eq_registerAll : builtinRules = Table.registerAll [] builtinRules := rfl

section

variable (start : r.rules = builtinRules) (rules : List (Kind × Rule))

include start

theorem rules_addRules :
    (r.addRules rules).rules = Table.registerAll [] (builtinRules ++ rules) := by
  rw [addRules_eq, start, Table.registerAll_append, ← builtinRules_eq_registerAll]

theorem resolve_addRules (kind : Kind) : (r.addRules rules).resolve kind =
    ((r.addRules rules).searchPath kind).findSome? (Table.last? (builtinRules ++ rules)) := by
  have entries : (r.addRules rules).rules.get? = Table.last? (builtinRules ++ rules) := by
    rw [rules_addRules start]
    exact funext (Table.get?_registerAll _)
  rw [resolve, Table.firstOn, entries]

theorem kinds_addRules : (r.addRules rules).kinds =
    ((builtinRules ++ rules).map Prod.fst).eraseDups.filter (· ≠ .object) := by
  rw [kinds, rules_addRules start, Table.keys_registerAll]

theorem nodup_kinds_addRules : (r.addRules rules).kinds.Nodup := by
  rw [kinds, rules_addRules start]
  exact (Table.nodup_keys_registerAll _).filter _

end

theorem searchPath_addRules (rules : List (Kind × Rule)) (kind : Kind) :
    (r.addRules rules).searchPath kind = r.searchPath kind := by
  rw [addRules_eq]
  rfl

theorem kindDefaults_addRules (rules : List (Kind × Rule)) :
    (r.addRules rules).kindDefaults = r.kindDefaults := by
  rw [addRules_eq]
  rfl

end Registry

/-- Registries that find the same rules and the same defaults write the same. -/
theorem writeWithin_congr_registry {r s : Registry} (resolves : r.resolve = s.resolve)
    (supplies : r.kindDefaults = s.kindDefaults) (n : Nat) :
    writeWithin r n = writeWithin s n ∧ applyWithin r n = applyWithin s n := by
  have stands : asRegistered r = asRegistered s := by
    funext v
    rw [asRegistered, resolves, asRegistered]
  induction n with
  | zero => exact ⟨rfl, rfl⟩
  | succ n ih =>
    obtain ⟨write, apply⟩ := ih
    constructor
    · funext v c
      rw [writeWithin, writeWithin, stands, resolves, supplies, apply]
    · funext rule v c
      rw [applyWithin.eq_def, applyWithin.eq_def]
      simp only [write, apply, resolves]

theorem write_congr_registry {r s : Registry} (resolves : r.resolve = s.resolve)
    (supplies : r.kindDefaults = s.kindDefaults) : write r = write s := by
  funext v c
  have stands : asRegistered r v = asRegistered s v := by
    rw [asRegistered, resolves, asRegistered]
  rw [write, budget, stands, (writeWithin_congr_registry resolves supplies _).1, write, budget]

/-- Registering rules on top of the built-in ones: the most specific kind wins with the rule it was
given last, all views agree, and the order of registrations shows in the list of kinds only. -/
theorem most_specific_kind_wins {r : Registry} (ordered : r.Ordered)
    (start : r.rules = Registry.builtinRules) (rules : List (Kind × Rule)) :
    (∀ kind, (r.addRules rules).SearchOrder kind ∧
      (r.addRules rules).resolve kind = ((r.addRules rules).searchPath kind).findSome?
        (Table.last? (Registry.builtinRules ++ rules))) ∧
    (r.addRules rules).Agreeing ∧
    (r.addRules rules).kinds =
      ((Registry.builtinRules ++ rules).map Prod.fst).eraseDups.filter (· ≠ .object) ∧
    ∀ others, Table.Rearranged rules others →
      (r.addRules others).resolve = (r.addRules rules).resolve ∧
      write (r.addRules others) = write (r.addRules rules) ∧
      (r.addRules others).kinds.Perm (r.addRules rules).kinds := by
  have still : (r.addRules rules).Ordered := by
    rw [Registry.addRules_eq]
    exact Registry.ordered_of_lineages ordered rfl
  refine ⟨fun kind => ⟨still.searchOrder kind, Registry.resolve_addRules start rules kind⟩,
    still.agreeing, Registry.kinds_addRules start rules, fun others same => ?_⟩
  have all := same.append Registry.builtinRules
  have resolves : (r.addRules others).resolve = (r.addRules rules).resolve := by
    funext kind
    rw [Registry.resolve_addRules start, Registry.resolve_addRules start,
      Registry.searchPath_addRules, Registry.searchPath_addRules, funext all.last?]
  have supplies : (r.addRules others).kindDefaults = (r.addRules rules).kindDefaults := by
    rw [Registry.kindDefaults_addRules, Registry.kindDefaults_addRules]
  refine ⟨resolves, write_congr_registry resolves supplies, ?_⟩
  refine (List.perm_ext_iff_of_nodup (Registry.nodup_kinds_addRules start others)
    (Registry.nodup_kinds_addRules start rules)).2 fun kind => ?_
  have known : kind ∈ (Registry.builtinRules ++ others).map Prod.fst ↔
      kind ∈ (Registry.builtinRules ++ rules).map Prod.fst := by
    simp only [List.mem_map, all.mem_iff]
  rw [Registry.kinds_addRules start, Registry.kinds_addRules start, List.mem_filter,
    List.mem_filter, List.mem_eraseDups, List.mem_eraseDups, known]

/-- A kind that derives from two kinds that derive from one. -/
def diamond : Except Fault Registry := do
  let r ← Registry.builtin.declare (.declared "shapes" "Shape") [.int]
  let r ← r.declare (.declared "shapes" "Round") [.declared "shapes" "Shape"]
  let r ← r.declare (.declared "shapes" "Flat") [.declared "shapes" "Shape"]
  r.declare (.declared "shapes" "Disc") [.declared "shapes" "Round", .declared "shapes" "Flat"]

theorem ordered_diamond {r : Registry} (declared : diamond = .ok r) : r.Ordered := by
  obtain ⟨_, shape, declared⟩ := bind_eq_ok_iff.1 declared
  obtain ⟨_, round, declared⟩ := bind_eq_ok_iff.1 declared
  obtain ⟨_, flat, disc⟩ := bind_eq_ok_iff.1 declared
  exact (((Registry.ordered_builtin.declare shape).declare round).declare flat).declare disc

/-- In a diamond the second base comes before the common one, which comes before `Integral`. -/
theorem most_specific_kind_wins_in_diamond :
    let flat : Kind := .declared "shapes" "Flat"
    let shape : Kind := .declared "shapes" "Shape"
    let disc : Kind := .declared "shapes" "Disc"
    let first : Rule := .composed "show_first" [.text "first"]
    let second : Rule := .composed "show_second" [.text "second"]
    let common : Rule := .composed "show_common" [.text "common"]
    ∃ r, diamond = .ok r ∧ r.Ordered ∧ r.rules = Registry.builtinRules ∧
      (r.addRules [(flat, first), (shape, common), (flat, second)]).resolve disc = some second ∧
      (r.addRules [(shape, common), (flat, first), (flat, second)]).resolve disc = some second ∧
      (r.addRules [(shape, common)]).resolve disc = some common ∧
      (r.addRules []).resolve disc = some (.builtin .integer) := by
  intro flat shape disc first second common
  obtain ⟨r, declared⟩ : ∃ r, diamond = .ok r := ⟨_, rfl⟩
  have ordered := ordered_diamond declared
  cases declared
  refine ⟨_, rfl, ordered, rfl, ?_, ?_, ?_, ?_⟩
  · exact ((most_specific_kind_wins ordered rfl _).1 _).2
  · have wins := most_specific_kind_wins ordered rfl
      [(flat, first), (shape, common), (flat, second)]
    have swapped := (wins.2.2.2 _ (Table.rearranged_swap [] _ (by simp [flat, shape]))).1
    exact (congrFun swapped _).trans (wins.1 _).2
  · exact ((most_specific_kind_wins ordered rfl _).1 _).2
  · exact ((most_specific_kind_wins ordered rfl _).1 _).2

end TypstMarkup.Markup
