import TypstMarkup.Proofs.Expression.Called
import TypstMarkup.Proofs.Expression.Operation
import TypstMarkup.Proofs.Success

/-!
What evaluation leaves behind. The only lasting effect of an expression is that names it assigns to
have values; loops have names of their own, which are gone when the loop ends. So an expression
without assignments leaves its surroundings as they were. And evaluation fails only as an operation
does that it applies, or as formatting is meant to.
-/
namespace TypstMarkup.Expression

/-! ### Names that are assigned to -/

mutual

/-- The names that an expression assigns to in the scope it is evaluated in. What the body of an
anonymous function assigns to belongs to the function. -/
def bound : Expr → List String
  | .name _ _ | .constant _ => []
  | .formatted items | .tuple items _ | .list items _ | .set items | .boolean _ items =>
    boundAll items
  | .field e _ spec => bound e ++ boundAll spec
  | .dict entries => boundEntries entries
  | .starred e _ | .unary _ e | .attribute e _ _ | .await e _ => bound e
  | .binary _ left right => bound left ++ bound right
  | .compare first rest => bound first ++ boundCompared rest
  | .conditional test yes no => bound test ++ (bound yes ++ bound no)
  | .function list _ _ => boundDefaults list
  | .comprehension _ element value clauses _ =>
    boundClauses clauses ++ (bound element ++ boundOptional value)
  | .call callee arguments keywords _ =>
    bound callee ++ (boundAll arguments ++ boundKeywords keywords)
  | .subscript e index => bound e ++ bound index
  | .slice start stop step => boundOptional start ++ (boundOptional stop ++ boundOptional step)
  | .assign id _ e => id :: bound e
  | .yield e _ => boundOptional e

def boundAll : List Expr → List String
  | [] => []
  | e :: rest => bound e ++ boundAll rest

/-- The names that an expression that may be absent assigns to. -/
def boundOptional : Option Expr → List String
  | none => []
  | some e => bound e

/-- The names that the operands of a chain of comparisons assign to. -/
def boundCompared : List (CompareOperator × Expr) → List String
  | [] => []
  | (_, e) :: rest => bound e ++ boundCompared rest

/-- The names that the entries of a dictionary assign to. -/
def boundEntries : List Entry → List String
  | [] => []
  | .mk key e :: rest => boundOptional key ++ (bound e ++ boundEntries rest)

/-- The names that the defaults of parameters assign to. -/
def boundDefaults : List Parameter → List String
  | [] => []
  | .mk _ _ _ default :: rest => boundOptional default ++ boundDefaults rest

/-- The names that the loops of a comprehension assign to, those they run over apart. -/
def boundClauses : List Clause → List String
  | [] => []
  | .mk target source conditions _ :: rest =>
    bound target ++ (bound source ++ (boundAll conditions ++ boundClauses rest))

def boundKeywords : List Keyword → List String
  | [] => []
  | .mk _ e _ :: rest => bound e ++ boundKeywords rest

end

/-! ### Effects -/

/-- Names with bindings made one after the other. -/
def bindAll (names made : List (String × Value)) : List (String × Value) :=
  made.foldl (fun names b => setName names b.1 b.2) names

theorem bindAll_append (names made more : List (String × Value)) :
    bindAll names (made ++ more) = bindAll (bindAll names made) more :=
  List.foldl_append

theorem valueOf?_cons (key : String) (v : Value) (rest : List (String × Value)) (id : String) :
    valueOf? ((key, v) :: rest) id = if key = id then some v else valueOf? rest id := by
  by_cases same : key = id <;> simp [valueOf?, same]

theorem valueOf?_setName_self (names : List (String × Value)) (id : String) (v : Value) :
    valueOf? (setName names id v) id = some v := by
  induction names with
  | nil => rw [setName, valueOf?_cons, if_pos rfl]
  | cons entry rest ih =>
    obtain ⟨key, w⟩ := entry
    rw [setName]
    split
    · rename_i same
      rw [valueOf?_cons, if_pos same]
    · rename_i other
      rw [valueOf?_cons, if_neg other, ih]

theorem valueOf?_setName_of_ne {id key : String} (different : id ≠ key)
    (names : List (String × Value)) (v : Value) :
    valueOf? (setName names id v) key = valueOf? names key := by
  induction names with
  | nil => rw [setName, valueOf?_cons, if_neg different]
  | cons entry rest ih =>
    obtain ⟨other, w⟩ := entry
    rw [setName]
    split
    · rename_i same
      subst same
      rw [valueOf?_cons, valueOf?_cons, if_neg different, if_neg different]
    · rw [valueOf?_cons, valueOf?_cons, ih]

/-- A name that no binding is of keeps its value. -/
theorem valueOf?_bindAll_of_ne {key : String} {made : List (String × Value)}
    (different : ∀ b ∈ made, b.1 ≠ key) (names : List (String × Value)) :
    valueOf? (bindAll names made) key = valueOf? names key := by
  induction made generalizing names with
  | nil => rfl
  | cons b rest ih =>
    rw [List.forall_mem_cons] at different
    exact (ih different.2 _).trans (valueOf?_setName_of_ne different.1 names b.2)

/-- A name that has a value has one behind any bindings. -/
theorem exists_valueOf?_bindAll {names : List (String × Value)} {key : String} {v : Value}
    (found : valueOf? names key = some v) (made : List (String × Value)) :
    ∃ w, valueOf? (bindAll names made) key = some w := by
  induction made generalizing names v with
  | nil => exact ⟨v, found⟩
  | cons b rest ih =>
    by_cases same : b.1 = key
    · subst same
      exact ih (valueOf?_setName_self names b.1 b.2)
    · exact ih ((valueOf?_setName_of_ne same names b.2).trans found)

/-- Surroundings that differ from others in bindings of certain names, and in the names of loops. -/
structure Extends (ids : List String) (s t : Surroundings) : Prop where
  registry : t.registry = s.registry
  names : ∃ made : List (String × Value), (∀ b ∈ made, b.1 ∈ ids) ∧ t.names = bindAll s.names made

/-- What an expression does to its surroundings. -/
def Outside (ids : List String) (s t : Surroundings) : Prop :=
  Extends ids s t ∧ t.loops = s.loops

/-- What a loop does to its surroundings: it may also change the names of the innermost loop. -/
def Inside (ids : List String) (s t : Surroundings) : Prop :=
  t.registry = s.registry ∧
    (s.loops ≠ [] → Extends ids s t ∧ t.loops ≠ [] ∧ t.loops.drop 1 = s.loops.drop 1)

section

variable {ids : List String} {s t u : Surroundings}

theorem Extends.refl (ids : List String) (s : Surroundings) : Extends ids s s :=
  ⟨rfl, [], by simp, rfl⟩

theorem Extends.trans (first : Extends ids s t) (second : Extends ids t u) : Extends ids s u := by
  obtain ⟨made, own, same⟩ := first.names
  obtain ⟨more, ownMore, sameMore⟩ := second.names
  refine ⟨second.registry.trans first.registry, made ++ more, ?_, ?_⟩
  · intro b member
    exact (List.mem_append.1 member).elim (own b) (ownMore b)
  · rw [sameMore, same, bindAll_append]

end

/-- A relation between surroundings that computations can be chained under. -/
class Chains (R : Surroundings → Surroundings → Prop) : Prop where
  refl : ∀ s, R s s
  trans : ∀ {s t u}, R s t → R t u → R s u
  registry : ∀ {s t}, R s t → t.registry = s.registry

instance (ids : List String) : Chains (Outside ids) where
  refl s := ⟨.refl ids s, rfl⟩
  trans first second := ⟨first.1.trans second.1, second.2.trans first.2⟩
  registry made := made.1.registry

instance (ids : List String) : Chains (Inside ids) where
  refl s := ⟨rfl, fun inLoop => ⟨.refl ids s, inLoop, rfl⟩⟩
  trans first second := by
    refine ⟨second.1.trans first.1, fun inLoop => ?_⟩
    obtain ⟨extends₁, still, rest₁⟩ := first.2 inLoop
    obtain ⟨extends₂, still₂, rest₂⟩ := second.2 still
    exact ⟨extends₁.trans extends₂, still₂, rest₂.trans rest₁⟩
  registry made := made.1

/-- Wherever a computation succeeds, it leads from one surroundings to related ones, and wherever it
fails, that was to be foreseen. -/
structure Behaves (R : Surroundings → Surroundings → Prop) {α : Type} (m : Evaluating α) :
    Prop where
  leads : ∀ s a t, m.run s = .ok (a, t) → R s t
  fails : ∀ s, FailsWithin (Foreseen s.registry) (m.run s)

section

variable {R : Surroundings → Surroundings → Prop} {α β : Type}

theorem run_bind_eq_ok {m : Evaluating α} {next : α → Evaluating β} {s u : Surroundings} {b : β} :
    (m >>= next).run s = .ok (b, u) ↔
      ∃ a t, m.run s = .ok (a, t) ∧ (next a).run t = .ok (b, u) := by
  rw [StateT.run_bind, bind_eq_ok_iff, Prod.exists]

theorem run_bind_eq_error {m : Evaluating α} {next : α → Evaluating β} {s : Surroundings}
    {f : Fault} :
    (m >>= next).run s = .error f ↔
      m.run s = .error f ∨ ∃ a t, m.run s = .ok (a, t) ∧ (next a).run t = .error f := by
  rw [StateT.run_bind, bind_eq_error_iff, Prod.exists]

theorem behaves_throw {f : Fault} (operational : f.Operational) :
    Behaves R (throw f : Evaluating α) where
  leads := by
    intro s a t run
    cases run
  fails s := foreseen_of_operation (failsWithin_error.2 operational)

theorem behaves_tryCatch {m : Evaluating α} {handle : Fault → Evaluating α}
    (first : Behaves R m) (second : ∀ f, Behaves R (handle f)) : Behaves R (tryCatch m handle) := by
  have caught (s : Surroundings) :
      (tryCatch m handle).run s = tryCatch (m.run s) fun f => (handle f).run s := rfl
  constructor
  · intro s a t run
    rw [caught] at run
    cases found : m.run s with
    | ok pair =>
      rw [found] at run
      cases run
      exact first.leads s a t found
    | error f =>
      rw [found] at run
      exact (second f).leads s a t run
  · intro s
    rw [caught]
    cases m.run s with
    | ok pair => exact failsWithin_ok pair
    | error f => exact (second f).fails s

variable [Chains R]

theorem behaves_pure (a : α) : Behaves R (pure a : Evaluating α) where
  leads := by
    intro s b t run
    cases run
    exact Chains.refl s
  fails s := failsWithin_ok (a, s)

theorem Behaves.bind {m : Evaluating α} {next : α → Evaluating β} (first : Behaves R m)
    (second : ∀ a, Behaves R (next a)) : Behaves R (m >>= next) := by
  constructor
  · intro s b u run
    obtain ⟨a, t, run, runNext⟩ := run_bind_eq_ok.1 run
    exact Chains.trans (first.leads s a t run) ((second a).leads t b u runNext)
  · intro s f run
    rcases run_bind_eq_error.1 run with failed | ⟨a, t, run, failed⟩
    · exact first.fails s f failed
    · rw [← Chains.registry (first.leads s a t run)]
      exact (second a).fails t f failed

/-- An operation that may depend on the registry, and on nothing else in the surroundings. -/
theorem behaves_apply {x : Markup.Registry → Except Fault α}
    (foreseen : ∀ r, FailsWithin (Foreseen r) (x r)) :
    Behaves R (get >>= fun s => liftM (x s.registry) : Evaluating α) := by
  have run (s : Surroundings) :
      (get >>= fun s => liftM (x s.registry) : Evaluating α).run s =
        (x s.registry).map fun a => (a, s) := by
    simp only [StateT.run_bind, StateT.run_get, pure_bind]
    cases x s.registry <;> rfl
  constructor
  · intro s a t found
    rw [run, map_eq_ok_iff] at found
    obtain ⟨b, -, same⟩ := found
    cases same
    exact Chains.refl s
  · intro s
    rw [run, failsWithin_map]
    exact foreseen s.registry

theorem behaves_lift {x : Except Fault α} (operation : IsOperation x) :
    Behaves R (liftM x : Evaluating α) :=
  behaves_apply fun _ => foreseen_of_operation operation

theorem behaves_get : Behaves R (get : Evaluating Surroundings) where
  leads := by
    intro s a t run
    cases run
    exact Chains.refl s
  fails s := failsWithin_ok _

theorem behaves_mapM {f : α → Evaluating β} (each : ∀ a, Behaves R (f a)) (list : List α) :
    Behaves R (list.mapM f) := by
  induction list with
  | nil => exact behaves_pure []
  | cons a rest ih =>
    rw [List.mapM_cons]
    exact (each a).bind fun b => ih.bind fun more => behaves_pure _

end

section

variable {ids : List String} {α : Type}

theorem behaves_lookUp (id : String) : Behaves (Outside ids) (Evaluating.lookUp id) := by
  refine behaves_get.bind fun s => ?_
  split
  · exact behaves_pure _
  · split
    · exact behaves_pure _
    · exact behaves_throw rfl

theorem behaves_assignName {id : String} (own : id ∈ ids) (v : Value) :
    Behaves (Outside ids) (Evaluating.assignName id v) where
  leads := by
    intro s a t run
    cases run
    refine ⟨⟨rfl, [(id, v)], ?_, rfl⟩, rfl⟩
    simpa using own
  fails s := failsWithin_ok _

theorem behaves_assignLoop (id : String) (v : Value) :
    Behaves (Inside ids) (Evaluating.assignLoop id v) where
  leads := by
    rintro ⟨names, loops, registry⟩ a t run
    cases loops with
    | nil =>
      cases run
      exact ⟨rfl, fun inLoop => absurd rfl inLoop⟩
    | cons first rest =>
      cases run
      exact ⟨rfl, fun _ => ⟨⟨rfl, [], by simp, rfl⟩, List.cons_ne_nil _ _, rfl⟩⟩
  fails s := failsWithin_ok _

theorem Behaves.inside {m : Evaluating α} (behaves : Behaves (Outside ids) m) :
    Behaves (Inside ids) m where
  leads := by
    intro s a t run
    obtain ⟨made, same⟩ := behaves.leads s a t run
    exact ⟨made.registry, fun inLoop => ⟨made, by rwa [same], by rw [same]⟩⟩
  fails := behaves.fails

/-- A loop leaves none of its own names behind. -/
theorem Behaves.inLoop {m : Evaluating α} (behaves : Behaves (Inside ids) m) :
    Behaves (Outside ids) (Evaluating.inLoop m) := by
  constructor
  · intro s a u run
    obtain ⟨_, s', entered, run⟩ := run_bind_eq_ok.1 run
    cases entered
    obtain ⟨b, t, inside, left⟩ := run_bind_eq_ok.1 run
    cases left
    obtain ⟨made, -, rest⟩ := (behaves.leads _ _ t inside).2 (List.cons_ne_nil _ _)
    exact ⟨⟨made.registry, made.names⟩, rest⟩
  · intro s f run
    rcases run_bind_eq_error.1 run with entered | ⟨_, s', entered, run⟩
    · cases entered
    · cases entered
      rcases run_bind_eq_error.1 run with inside | ⟨b, t, -, left⟩
      · exact behaves.fails (Surroundings.mk s.names ([] :: s.loops) s.registry) f inside
      · cases left

end

/-! ### Expressions -/

section

variable {ids : List String}

/-- The elements that a comprehension collects, in a loop of their own. -/
theorem behaves_collected {kind : ComprehensionKind} {elements : Evaluating (List (Value × Value))}
    (behaves : Behaves (Outside ids) elements) :
    Behaves (Outside ids) (do
      if kind == .generator then
        try collected kind (← elements)
        catch _ => return .foreign (.declared "builtins" "generator") "<generator>"
      else collected kind (← elements)) := by
  split
  · refine (behaves_tryCatch ?_ fun _ => behaves_pure _).bind fun outcome => ?_
    · exact behaves.bind fun _ => (behaves_lift (isOperation_collected kind _)).bind fun _ =>
        behaves_pure _
    · cases outcome <;> exact behaves_pure _
  · exact behaves.bind fun _ => behaves_lift (isOperation_collected kind _)

theorem behaves_evaluateAll {es : List Expr}
    (each : ∀ e ∈ es, Behaves (Outside ids) (evaluate e)) :
    Behaves (Outside ids) (evaluateAll es) := by
  induction es with
  | nil => exact behaves_pure []
  | cons e rest ih =>
    rw [List.forall_mem_cons] at each
    rw [evaluateAll]
    exact each.1.bind fun _ => (ih each.2).bind fun _ => behaves_pure _

theorem behaves_evaluateItems {es : List Expr}
    (each : ∀ e ∈ es, Behaves (Outside ids) (evaluate e)) :
    Behaves (Outside ids) (evaluateItems es) := by
  induction es with
  | nil => exact behaves_pure []
  | cons e rest ih =>
    rw [List.forall_mem_cons] at each
    rw [evaluateItems.eq_def]
    split
    · exact behaves_pure []
    · rename_i same
      cases same
      exact Behaves.bind each.1 fun _ => (behaves_lift (isOperation_spread _)).bind fun _ =>
        (ih each.2).bind fun _ => behaves_pure _
    · rename_i same
      cases same
      exact each.1.bind fun _ => (ih each.2).bind fun _ => behaves_pure _

theorem behaves_evaluateMembers {es : List Expr}
    (each : ∀ e ∈ es, Behaves (Outside ids) (evaluate e)) :
    Behaves (Outside ids) (evaluateMembers es) := by
  induction es with
  | nil => exact behaves_pure []
  | cons e rest ih =>
    rw [List.forall_mem_cons] at each
    rw [evaluateMembers.eq_def]
    split
    · exact behaves_pure []
    · rename_i same
      cases same
      exact Behaves.bind each.1 fun _ => (behaves_lift (isOperation_items? _)).bind fun _ =>
        (ih each.2).bind fun _ => behaves_pure _
    · rename_i same
      cases same
      exact each.1.bind fun _ => (ih each.2).bind fun _ => behaves_pure _

theorem behaves_evaluateBoolean (conjunction : Bool) {es : List Expr}
    (each : ∀ e ∈ es, Behaves (Outside ids) (evaluate e)) :
    Behaves (Outside ids) (evaluateBoolean conjunction es) := by
  induction es with
  | nil => exact behaves_pure _
  | cons e rest ih =>
    rw [List.forall_mem_cons] at each
    cases rest with
    | nil => exact each.1
    | cons next rest =>
      rw [evaluateBoolean]
      · refine each.1.bind fun v => ?_
        split
        · exact ih each.2
        · exact behaves_pure _
      · exact List.cons_ne_nil _ _

theorem behaves_allHold {es : List Expr} (each : ∀ e ∈ es, Behaves (Outside ids) (evaluate e)) :
    Behaves (Outside ids) (allHold es) := by
  induction es with
  | nil => exact behaves_pure _
  | cons e rest ih =>
    rw [List.forall_mem_cons] at each
    rw [allHold]
    refine each.1.bind fun v => ?_
    split
    · exact ih each.2
    · exact behaves_pure _

/-- The rest of a chain of comparisons, behind an operand and its operator. -/
theorem behaves_compared (op : CompareOperator) (left right : Value)
    {rest : List (CompareOperator × Expr)}
    (behaves : Behaves (Outside ids) (evaluateCompared right rest)) :
    Behaves (Outside ids) (do
      let holds ← match op with
        | .equal => pure (left.same right)
        | .notEqual => pure (!left.same right)
        | .order c => Value.compare? c left right
        | .identical => pure (identical left right)
        | .notIdentical => pure (!identical left right)
        | .member => right.contains? left
        | .notMember =>
          let found ← right.contains? left
          pure (!found)
      if holds then evaluateCompared right rest else return .bool false) := by
  have chosen (holds : Bool) : Behaves (Outside ids)
      (if holds then evaluateCompared right rest else return .bool false) := by
    split
    · exact behaves
    · exact behaves_pure _
  cases op with
  | equal | notEqual | identical | notIdentical => exact (behaves_pure _).bind chosen
  | order => exact (behaves_lift (Value.isOperation_compare? _ _ _)).bind chosen
  | member => exact (behaves_lift (isOperation_contains? _ _)).bind chosen
  | notMember =>
    exact (behaves_lift (isOperation_contains? _ _)).bind fun _ => (behaves_pure _).bind chosen

mutual

theorem behaves_evaluate : (e : Expr) → bound e ⊆ ids → Behaves (Outside ids) (evaluate e)
  | .name id _, _ => behaves_lookUp id
  | .constant v, _ => behaves_pure v
  | .formatted pieces, own => (behaves_evaluateAll (behaves_each pieces own)).bind fun _ =>
      behaves_pure _
  | .field e conversion spec, own => by
    rw [bound, List.append_subset] at own
    rw [evaluate]
    exact (behaves_evaluate e own.1).bind fun _ =>
      (behaves_evaluateAll (behaves_each spec own.2)).bind fun _ =>
        (behaves_lift (isOperation_fieldText _ _ _)).bind fun _ => behaves_pure _
  | .tuple items _, own => (behaves_evaluateItems (behaves_each items own)).bind fun _ =>
      behaves_pure _
  | .list items _, own => (behaves_evaluateItems (behaves_each items own)).bind fun _ =>
      behaves_pure _
  | .set items, own => (behaves_evaluateMembers (behaves_each items own)).bind fun _ =>
      behaves_lift (isOperation_ofMembers? _)
  | .dict entries, own => (behaves_evaluateEntries entries own).bind fun _ =>
      behaves_lift (isOperation_ofEntries? _)
  | .starred e _, own => behaves_evaluate e own
  | .unary op e, own => by
    rw [evaluate]
    refine (behaves_evaluate e own).bind fun v => ?_
    cases op with
    | negative => exact behaves_lift (Value.isOperation_negative v)
    | positive => exact behaves_lift (Value.isOperation_positive v)
    | complement => exact behaves_lift (Value.isOperation_complement v)
    | negation => exact behaves_pure _
  | .binary op left right, own => by
    rw [bound, List.append_subset] at own
    rw [evaluate]
    exact (behaves_evaluate left own.1).bind fun _ => (behaves_evaluate right own.2).bind fun _ =>
      behaves_lift (Value.isOperation_operate _ _ _)
  | .boolean conjunction items, own => behaves_evaluateBoolean conjunction (behaves_each items own)
  | .compare first rest, own => by
    rw [bound, List.append_subset] at own
    rw [evaluate]
    exact (behaves_evaluate first own.1).bind fun v => behaves_evaluateCompared v rest own.2
  | .conditional test yes no, own => by
    rw [bound, List.append_subset, List.append_subset] at own
    rw [evaluate]
    refine (behaves_evaluate test own.1).bind fun v => ?_
    split
    · exact behaves_evaluate yes own.2.1
    · exact behaves_evaluate no own.2.2
  | .function list _ _, own => (behaves_evaluateDefaults list own).bind fun _ => behaves_pure _
  | .comprehension kind element value [] _, _ => behaves_pure _
  | .comprehension kind element value (.mk target source conditions _ :: rest) _, own => by
    rw [bound, boundClauses] at own
    simp only [List.append_subset] at own
    obtain ⟨⟨ownTarget, ownSource, ownConditions, ownRest⟩, ownElement, ownValue⟩ := own
    rw [evaluate]
    refine (behaves_evaluate source ownSource).bind fun v =>
      (behaves_lift (isOperation_items? v)).bind fun items => ?_
    refine behaves_collected (.inLoop
      (.bind (behaves_mapM (fun item => ?_) items) fun _ => behaves_pure _))
    refine (behaves_assignTarget target item ownTarget).bind fun _ => ?_
    refine (behaves_allHold (behaves_each conditions ownConditions)).inside.bind fun holds => ?_
    split
    · refine behaves_evaluateClauses ?_ rest ownRest
      exact ((behaves_evaluate element ownElement).bind fun _ =>
        (behaves_evaluateOptional value ownValue).bind fun _ => behaves_pure _).inside
    · exact behaves_pure _
  | .call callee arguments keywords _, own => by
    rw [bound, List.append_subset, List.append_subset] at own
    obtain ⟨ownCallee, ownArguments, ownKeywords⟩ := own
    have each := behaves_each arguments ownArguments
    rw [evaluate]
    refine (behaves_evaluate callee ownCallee).bind fun f => ?_
    have applied (positional : List Value) : Behaves (Outside ids) (do
        let keywords ← evaluateKeywords f [] keywords
        applyTo (← get).registry f ⟨positional, keywords⟩) :=
      (behaves_evaluateKeywords f [] keywords ownKeywords).bind fun _ =>
        behaves_apply fun r => foreseen_applyTo r f _
    dsimp only
    split
    · refine Behaves.bind (each (.starred _ _) List.mem_cons_self) fun v => ?_
      split
      · exact (behaves_pure _).bind applied
      · exact (behaves_lift (isOperation_misfit _)).bind applied
    · exact (behaves_evaluateItems each).bind applied
  | .attribute e _ _, own => (behaves_evaluate e own).bind fun _ =>
      behaves_lift (isOperation_member? _ _)
  | .subscript e index, own => by
    rw [bound, List.append_subset] at own
    rw [evaluate]
    refine (behaves_evaluate e own.1).bind fun v => ?_
    cases index with
    | slice start stop step =>
      have bounds := own.2
      have limit (v : Option Value) : Behaves (Outside ids) (liftM (sliceBound v)) :=
        behaves_lift (isOperation_sliceBound v)
      rw [bound, List.append_subset, List.append_subset] at bounds
      exact (behaves_evaluateOptional start bounds.1).bind fun _ =>
        (behaves_evaluateOptional stop bounds.2.1).bind fun _ =>
          (behaves_evaluateOptional step bounds.2.2).bind fun _ => (limit _).bind fun _ =>
            (limit _).bind fun _ => (limit _).bind fun _ =>
              behaves_lift (isOperation_slice? _ _)
    | _ => exact (behaves_evaluate _ own.2).bind fun _ => behaves_lift (isOperation_itemOf _ _)
  | .slice _ _ _, _ => behaves_pure _
  | .assign id _ e, own => by
    rw [bound, List.cons_subset] at own
    rw [evaluate]
    exact (behaves_evaluate e own.2).bind fun v => (behaves_assignName own.1 v).bind fun _ =>
      behaves_pure _
  | .await e _, own => behaves_evaluate e own
  | .yield e _, own => (behaves_evaluateOptional e own).bind fun _ => behaves_pure _

theorem behaves_each :
    (es : List Expr) → boundAll es ⊆ ids → ∀ e ∈ es, Behaves (Outside ids) (evaluate e)
  | [], _ => fun _ member => nomatch member
  | e :: rest, own => by
    rw [boundAll, List.append_subset] at own
    rw [List.forall_mem_cons]
    exact ⟨behaves_evaluate e own.1, behaves_each rest own.2⟩

theorem behaves_evaluateOptional :
    (e : Option Expr) → boundOptional e ⊆ ids → Behaves (Outside ids) (evaluateOptional e)
  | none, _ => behaves_pure none
  | some e, own => (behaves_evaluate e own).bind fun _ => behaves_pure _

theorem behaves_evaluateEntries :
    (entries : List Entry) → boundEntries entries ⊆ ids →
      Behaves (Outside ids) (evaluateEntries entries)
  | [], _ => behaves_pure []
  | .mk (some key) e :: rest, own => by
    rw [boundEntries, List.append_subset, List.append_subset] at own
    rw [evaluateEntries]
    exact (behaves_evaluate key own.1).bind fun _ => (behaves_evaluate e own.2.1).bind fun _ =>
      (behaves_evaluateEntries rest own.2.2).bind fun _ => behaves_pure _
  | .mk none e :: rest, own => by
    rw [boundEntries, List.append_subset, List.append_subset] at own
    rw [evaluateEntries]
    refine (behaves_evaluate e own.2.1).bind fun v => ?_
    split
    · exact (behaves_evaluateEntries rest own.2.2).bind fun _ => behaves_pure _
    · exact behaves_lift (isOperation_misfit _)

theorem behaves_evaluateCompared (left : Value) :
    (rest : List (CompareOperator × Expr)) → boundCompared rest ⊆ ids →
      Behaves (Outside ids) (evaluateCompared left rest)
  | [], _ => behaves_pure _
  | (op, e) :: rest, own => by
    rw [boundCompared, List.append_subset] at own
    rw [evaluateCompared]
    exact (behaves_evaluate e own.1).bind fun right =>
      behaves_compared op left right (behaves_evaluateCompared right rest own.2)

theorem behaves_evaluateDefaults :
    (list : List Parameter) → boundDefaults list ⊆ ids →
      Behaves (Outside ids) (evaluateDefaults list)
  | [], _ => behaves_pure _
  | .mk _ _ _ default :: rest, own => by
    rw [boundDefaults, List.append_subset] at own
    rw [evaluateDefaults]
    exact (behaves_evaluateOptional default own.1).bind fun _ => behaves_evaluateDefaults rest own.2

theorem behaves_evaluateClauses {body : Evaluating (List (Value × Value))}
    (behaves : Behaves (Inside ids) body) :
    (list : List Clause) → boundClauses list ⊆ ids →
      Behaves (Inside ids) (evaluateClauses body list)
  | [], _ => behaves
  | .mk target source conditions _ :: rest, own => by
    rw [boundClauses] at own
    simp only [List.append_subset] at own
    obtain ⟨ownTarget, ownSource, ownConditions, ownRest⟩ := own
    rw [evaluateClauses]
    refine (behaves_evaluate source ownSource).inside.bind fun v =>
      (behaves_lift (isOperation_items? v)).bind fun items => ?_
    refine .bind (behaves_mapM (fun item => ?_) items) fun _ => behaves_pure _
    refine (behaves_assignTarget target item ownTarget).bind fun _ => ?_
    refine (behaves_allHold (behaves_each conditions ownConditions)).inside.bind fun holds => ?_
    split
    · exact behaves_evaluateClauses behaves rest ownRest
    · exact behaves_pure _

theorem behaves_evaluateKeywords (callee : Value) (done : List (String × Value)) :
    (list : List Keyword) → boundKeywords list ⊆ ids →
      Behaves (Outside ids) (evaluateKeywords callee done list)
  | [], _ => behaves_pure _
  | .mk (some id) e _ :: rest, own => by
    rw [boundKeywords, List.append_subset] at own
    rw [evaluateKeywords]
    exact (behaves_evaluate e own.1).bind fun _ =>
      (behaves_lift (isOperation_addKeywords _ _ _)).bind fun done =>
        behaves_evaluateKeywords callee done rest own.2
  | .mk none e _ :: rest, own => by
    rw [boundKeywords, List.append_subset] at own
    rw [evaluateKeywords]
    exact (behaves_evaluate e own.1).bind fun _ =>
      (behaves_lift (isOperation_keywordEntries _ _)).bind fun _ =>
        (behaves_lift (isOperation_addKeywords _ _ _)).bind fun done =>
          behaves_evaluateKeywords callee done rest own.2

theorem behaves_assignTarget :
    (e : Expr) → (v : Value) → bound e ⊆ ids → Behaves (Inside ids) (assignTarget e v)
  | .name id _, v, _ => behaves_assignLoop id v
  | .tuple items _, v, own | .list items _, v, own => by
    rw [assignTarget]
    exact (behaves_lift (isOperation_unpacked _ _ _ _)).bind fun values =>
      behaves_assignTargets items values own
  | .starred e _, v, own => behaves_assignTarget e v own
  | .attribute e _ _, v, own => (behaves_evaluate e own).inside.bind fun _ =>
      behaves_lift (isOperation_misfit _)
  | .subscript e _, v, own => by
    rw [bound, List.append_subset] at own
    rw [assignTarget]
    exact (behaves_evaluate e own.1).inside.bind fun _ => behaves_lift (isOperation_misfit _)
  | .constant _, _, _ | .formatted _, _, _ | .field _ _ _, _, _ | .set _, _, _ | .dict _, _, _
  | .unary _ _, _, _ | .binary _ _ _, _, _ | .boolean _ _, _, _ | .compare _ _, _, _
  | .conditional _ _ _, _, _ | .function _ _ _, _, _ | .comprehension _ _ _ _ _, _, _
  | .call _ _ _ _, _, _ | .slice _ _ _, _, _ | .assign _ _ _, _, _ | .await _ _, _, _
  | .yield _ _, _, _ => (behaves_pure _).bind fun _ => behaves_lift (isOperation_misfit _)

theorem behaves_assignTargets :
    (es : List Expr) → (vs : List Value) → boundAll es ⊆ ids →
      Behaves (Inside ids) (assignTargets es vs)
  | [], _, _ => behaves_pure _
  | _ :: _, [], _ => behaves_pure _
  | e :: rest, v :: values, own => by
    rw [boundAll, List.append_subset] at own
    rw [assignTargets]
    exact (behaves_assignTarget e v own.1).bind fun _ => behaves_assignTargets rest values own.2

end

end

/-- An expression that assigns to nothing leaves its surroundings as they were. -/
theorem unchanged_of_evaluate {e : Expr} (free : bound e = []) {s t : Surroundings} {v : Value}
    (run : (evaluate e).run s = .ok (v, t)) : t = s := by
  obtain ⟨⟨registry, made, own, names⟩, loops⟩ :=
    (behaves_evaluate e (List.Subset.refl _)).leads s v t run
  obtain rfl : made = [] := by
    rw [List.eq_nil_iff_forall_not_mem]
    intro b member
    simpa [free] using own b member
  cases s
  cases t
  simp_all [bindAll]

end TypstMarkup.Expression
