import TypstMarkup.Markup.Procedure

/-!
The registry of rules and of default settings, keyed by kind. A value is written by the rule of the
first kind on its search path that has one; the search path is the lineage of its kind with adopted
kinds inserted after the kind that is adopted. Registering a kind again replaces its rule and keeps
its place.
-/
namespace TypstMarkup.Markup

/-- A core setting with a typed accessor. -/
inductive CoreSetting where
  | mode | inline | indent | depth
deriving DecidableEq, Repr

/-- A step of a composed rule. -/
inductive Part where
  /-- Writes a fixed text. -/
  | text (s : String)
  /-- Writes the shown form of a setting that must be present. -/
  | setting (key : String)
  /-- Writes the shown form of a setting, if present. -/
  | optional (key : String)
  /-- Writes a core setting. -/
  | accessor (which : CoreSetting)
  /-- Writes a parameter. -/
  | parameter (key : String)
  /-- Writes the payload of an object under changed settings. -/
  | payload (overrides : List (String × Value))
  /-- Writes the plain text of the value. -/
  | plain
  /-- Follows a procedure that is chosen by the value and by the settings under their keys. -/
  | procedure (body : Value → (String → Option Value) → Procedure)
  /-- Applies the rule found for another kind. -/
  | delegate (kind : Kind)
  | fail (message : String)

/-- A rule: one of the built-in rules, or a named sequence of parts. -/
inductive Rule where
  | builtin (rule : BuiltinRule)
  | composed (name : String) (parts : List Part)

def Rule.name : Rule → String
  | .builtin rule => rule.name
  | .composed name _ => name

/-- A table from kinds in order of first registration. -/
abbrev Table (α : Type) := List (Kind × α)

namespace Table

variable {α : Type}

/-- Registers a kind, or replaces what is registered for it. -/
def register (table : Table α) (kind : Kind) (entry : α) : Table α :=
  match table with
  | [] => [(kind, entry)]
  | (k, e) :: rest => if k = kind then (k, entry) :: rest else (k, e) :: register rest kind entry

def get? (table : Table α) (kind : Kind) : Option α :=
  (table.find? fun entry => entry.1 == kind).map Prod.snd

/-- What is registered for the first kind of a path that has an entry. -/
def firstOn (table : Table α) (path : List Kind) : Option α :=
  path.findSome? table.get?

theorem get?_cons (k kind : Kind) (e : α) (table : Table α) :
    get? ((k, e) :: table) kind = if k = kind then some e else table.get? kind := by
  unfold get?
  by_cases same : k = kind
  · rw [List.find?_cons_of_pos (by simpa using same), if_pos same]
    rfl
  · rw [List.find?_cons_of_neg (by simpa using same), if_neg same]

theorem get?_register (table : Table α) (kind other : Kind) (entry : α) :
    (table.register kind entry).get? other =
      if kind = other then some entry else table.get? other := by
  induction table with
  | nil => exact get?_cons kind other entry []
  | cons first rest ih =>
    obtain ⟨k, e⟩ := first
    unfold register
    by_cases here : k = kind
    · subst here
      rw [if_pos rfl, get?_cons, get?_cons]
      split <;> rfl
    · rw [if_neg here, get?_cons, get?_cons, ih]
      by_cases same : k = other
      · rw [if_pos same, if_pos same, if_neg (same ▸ Ne.symm here)]
      · rw [if_neg same, if_neg same]

theorem mem_of_get? {table : Table α} {kind : Kind} {entry : α}
    (found : table.get? kind = some entry) : (kind, entry) ∈ table := by
  obtain ⟨⟨k, e⟩, first, rfl⟩ := Option.map_eq_some_iff.1 found
  have key := List.find?_some first
  rw [← eq_of_beq key]
  exact List.mem_of_find?_eq_some first

theorem mem_of_firstOn {table : Table α} {path : List Kind} {entry : α}
    (found : table.firstOn path = some entry) : ∃ kind ∈ path, (kind, entry) ∈ table := by
  obtain ⟨kind, listed, present⟩ := List.exists_of_findSome?_eq_some found
  exact ⟨kind, listed, mem_of_get? present⟩

/-- Registering a kind changes nothing on the paths that avoid it. -/
theorem firstOn_register_of_notMem (table : Table α) {kind : Kind} {path : List Kind} (entry : α)
    (absent : kind ∉ path) : (table.register kind entry).firstOn path = table.firstOn path := by
  unfold firstOn
  induction path with
  | nil => rfl
  | cons first rest ih =>
    rw [List.mem_cons, not_or] at absent
    rw [List.findSome?_cons, List.findSome?_cons, get?_register, if_neg absent.1, ih absent.2]

end Table

/-- The default settings for the values of a kind. -/
abbrev Supplier := Value → Context

structure Registry where
  rules : Table Rule
  defaults : Table Supplier
  lineages : Table (List Kind)

namespace Registry

def builtinRules : Table Rule :=
  [(.bool, .builtin .bool), (.integral, .builtin .integer), (.float, .builtin .float),
    (.decimal, .builtin .decimal), (.fraction, .builtin .fraction),
    (.complex, .builtin .complex), (.char, .builtin .char), (.str, .builtin .string),
    (.pattern, .builtin .pattern), (.null, .builtin .null), (.range, .builtin .range),
    (.verbatim, .builtin .verbatim), (.markup, .builtin .markup), (.raw, .builtin .raw),
    (.tuple, .builtin .vector), (.list, .builtin .vector), (.matrix, .builtin .matrix)]

/-- Raw elements are fenced by three backticks and are no blocks. -/
def builtinDefaults : Table Supplier :=
  [(.raw, fun _ => OrderedMap.ofList [("backticks", .int 3), ("block", .bool false)])]

def builtin : Registry :=
  { rules := builtinRules, defaults := builtinDefaults, lineages := [] }

def lineage (r : Registry) (kind : Kind) : List Kind :=
  (r.lineages.get? kind).getD kind.lineage

/-- The kinds at which a value of a kind is looked up, in order. -/
def searchPath (r : Registry) (kind : Kind) : List Kind :=
  let line := r.lineage kind
  line.flatMap fun k => k :: k.adopted.filter fun a => !line.contains a

def resolve (r : Registry) (kind : Kind) : Option Rule :=
  r.rules.firstOn (r.searchPath kind)

def isRegistered (r : Registry) (kind : Kind) : Bool :=
  (r.resolve kind).isSome

def ruleFor (r : Registry) (v : Value) : Except Fault Rule :=
  match r.resolve v.kind with
  | some rule => .ok rule
  | none => .error (.unsupportedKind v.kind)

/-- The default settings that the kind of a value has for it. -/
def kindDefaults (r : Registry) (v : Value) : Context :=
  match r.defaults.firstOn (r.searchPath v.kind) with
  | some supplier => supplier v
  | none => OrderedMap.empty

def addRule (r : Registry) (kind : Kind) (rule : Rule) : Registry :=
  { r with rules := r.rules.register kind rule }

def addSupplier (r : Registry) (kind : Kind) (supplier : Supplier) : Registry :=
  { r with defaults := r.defaults.register kind supplier }

def addDefaults (r : Registry) (kind : Kind) (settings : Context) : Registry :=
  r.addSupplier kind fun _ => settings

/-- The kinds with a rule of their own, in order of registration; the rule for `object` is not
listed. -/
def kinds (r : Registry) : List Kind :=
  (r.rules.map Prod.fst).filter (· ≠ .object)

/-- The qualified names of the kinds with a rule of their own, sorted. -/
def names (r : Registry) : List String :=
  (r.kinds.map Kind.qualifiedName).mergeSort fun s t => s ≤ t

def mapping (r : Registry) : Table Rule :=
  r.rules.filter fun entry => entry.1 ≠ .object

end Registry

end TypstMarkup.Markup
