import TypstMarkup.Expression.Parser

/-!
Expressions that can be read but not compiled. Two passes look for an objection: the first follows
the names that are declared, scope by scope, and the second follows the order in which code is
made. The first objection found is the one reported.
-/
namespace TypstMarkup.Expression

/-- Why an expression cannot be compiled. -/
inductive Objection where
  | repeatedParameter (id : String)
  | assignmentInSource
  | assignmentToLoopName (id : String)
  | loopOverAssigned (id : String)
  | yieldInside (kind : ComprehensionKind)
  | repeatedKeyword (id : String)
  | reservedName
  | yieldOutsideFunction
  | awaitOutsideFunction
  | awaitOutsideAsyncFunction
  | asynchronousComprehension
  | bareStar
  | twoStars
  | farStar
deriving DecidableEq, Repr

def ComprehensionKind.title : ComprehensionKind → String
  | .list => "list comprehension"
  | .set => "set comprehension"
  | .dict => "dict comprehension"
  | .generator => "generator expression"

/-- The name that cannot be assigned to. -/
def reservedName : String := "__debug__"

def Objection.message : Objection → String
  | .repeatedParameter id => s!"duplicate argument '{id}' in function definition"
  | .assignmentInSource =>
    "assignment expression cannot be used in a comprehension iterable expression"
  | .assignmentToLoopName id =>
    s!"assignment expression cannot rebind comprehension iteration variable '{id}'"
  | .loopOverAssigned id =>
    s!"comprehension inner loop cannot rebind assignment expression target '{id}'"
  | .yieldInside kind => s!"'yield' inside {kind.title}"
  | .repeatedKeyword id => s!"keyword argument repeated: {id}"
  | .reservedName => "cannot assign to " ++ Expression.reservedName
  | .yieldOutsideFunction => "'yield' outside function"
  | .awaitOutsideFunction => "'await' outside function"
  | .awaitOutsideAsyncFunction => "'await' outside async function"
  | .asynchronousComprehension =>
    "asynchronous comprehension outside of an asynchronous function"
  | .bareStar => "starred assignment target must be in a list or tuple"
  | .twoStars => "multiple starred expressions in assignment"
  | .farStar => "too many expressions in star-unpacking assignment"

abbrev Objected := Objection × Nat

def Parameter.id : Parameter → String × Nat
  | .mk _ id line _ => (id, line)

def Parameter.hasRole (roles : List ParameterRole) : Parameter → Bool
  | .mk role _ _ _ => roles.contains role

/-- Parameters with the ones of some roles moved to the end. -/
def moveLast (roles : List ParameterRole) (parameters : List Parameter) : List Parameter :=
  parameters.filter (!Parameter.hasRole roles ·) ++ parameters.filter (Parameter.hasRole roles)

/-! ### Declared names -/

/-- What is known of a scope while its names are declared. -/
structure Scope where
  /-- The comprehension whose scope it is. -/
  comprehension : Option ComprehensionKind := none
  /-- Whether the source of a loop is being read. -/
  inSource : Bool := false
  /-- Whether the target of a loop is being read. -/
  inTarget : Bool := false
  loopNames : List String := []
  assigned : List String := []

/-- Declares names in scopes, the innermost first. -/
abbrev Declaring := StateT (List Scope) (Except Objected)

namespace Declaring

def object {α : Type} (o : Objection) (line : Nat) : Declaring α :=
  throw (o, line)

def current : Declaring Scope := return (← get).head?.getD {}

def change (f : Scope → Scope) : Declaring Unit :=
  modify fun
    | scope :: rest => f scope :: rest
    | [] => []

def within (comprehension : Option ComprehensionKind) (inside : Declaring Unit) :
    Declaring Unit := do
  let inSource := (← current).inSource
  modify ({ comprehension, inSource } :: ·)
  inside
  modify (List.drop 1)

def asSource (inside : Declaring Unit) : Declaring Unit := do
  let before := (← current).inSource
  change fun scope => { scope with inSource := true }
  inside
  change fun scope => { scope with inSource := before }

def asTarget (inside : Declaring Unit) : Declaring Unit := do
  change fun scope => { scope with inTarget := true }
  inside
  change fun scope => { scope with inTarget := false }

/-- Mentions a name. In the target of a loop it becomes a name of the loop. -/
def mention (id : String) (line : Nat) : Declaring Unit := do
  let scope ← current
  if scope.inTarget then
    if scope.assigned.contains id then object (.loopOverAssigned id) line
    else change fun scope => { scope with loopNames := id :: scope.loopNames }

/-- Assigns to a name from within comprehensions: the name belongs to the scope around them and may
name none of their loops. -/
def assignThrough (id : String) (line : Nat) : Declaring Unit := do
  let around := (← get).takeWhile fun scope => scope.comprehension.isSome
  if around.any fun scope => scope.loopNames.contains id then
    object (.assignmentToLoopName id) line
  else
    change fun scope => { scope with assigned := id :: scope.assigned }
    if (← current).inTarget then object (.loopOverAssigned id) line

def parameters : List String → List Parameter → Declaring Unit
  | _, [] => return
  | seen, p :: rest =>
    if seen.contains p.id.1 then object (.repeatedParameter p.id.1) p.id.2
    else parameters (p.id.1 :: seen) rest

end Declaring

open Declaring

mutual

def declare : Expr → Declaring Unit
  | .name id line => mention id line
  | .constant _ => return
  | .formatted pieces => declareAll pieces
  | .field e _ spec => do declare e; declareAll spec
  | .tuple items _ | .list items _ | .set items => declareAll items
  | .dict entries => do declareKeys entries; declareEntries entries
  | .starred e _ | .unary _ e | .attribute e _ _ | .await e _ => declare e
  | .binary _ left right => do declare left; declare right
  | .boolean _ items => declareAll items
  | .compare first rest => do declare first; declareCompared rest
  | .conditional test yes no => do declare test; declare yes; declare no
  | .function list body _ => do
    declareDefaults list
    within none do
      parameters [] (moveLast [.keywordRest] (moveLast [.rest] list))
      declare body
  | .comprehension kind element value clauses _ =>
    match clauses with
    | [] => return
    | .mk target source conditions _ :: rest => do
      asSource (declare source)
      within (some kind) do
        asTarget (declare target)
        declareAll conditions
        declareClauses rest
        declareOptional value
        declare element
  | .call callee arguments keywords _ => do
    declare callee
    declareAll arguments
    declareKeywords keywords
  | .subscript e index => do declare e; declare index
  | .slice start stop step => do
    declareOptional start; declareOptional stop; declareOptional step
  | .assign id line e => do
    let scope ← current
    if scope.inSource then object .assignmentInSource line
    else if scope.comprehension.isSome then assignThrough id line
    declare e
    mention id line
  | .yield e line => do
    declareOptional e
    match (← current).comprehension with
    | some kind => object (.yieldInside kind) line
    | none => return

def declareAll : List Expr → Declaring Unit
  | [] => return
  | e :: rest => do declare e; declareAll rest

def declareOptional : Option Expr → Declaring Unit
  | none => return
  | some e => declare e

def declareCompared : List (CompareOperator × Expr) → Declaring Unit
  | [] => return
  | (_, e) :: rest => do declare e; declareCompared rest

def declareKeys : List Entry → Declaring Unit
  | [] => return
  | .mk key _ :: rest => do declareOptional key; declareKeys rest

def declareEntries : List Entry → Declaring Unit
  | [] => return
  | .mk _ e :: rest => do declare e; declareEntries rest

def declareDefaults : List Parameter → Declaring Unit
  | [] => return
  | .mk _ _ _ default :: rest => do declareOptional default; declareDefaults rest

/-- Declares the names of the loops of a comprehension after the first. -/
def declareClauses : List Clause → Declaring Unit
  | [] => return
  | .mk target source conditions _ :: rest => do
    asTarget (declare target)
    asSource (declare source)
    declareAll conditions
    declareClauses rest

def declareKeywords : List Keyword → Declaring Unit
  | [] => return
  | .mk _ e _ :: rest => do declare e; declareKeywords rest

end

/-! ### Waiting -/

mutual

/-- Whether an expression waits, so that the comprehension around it must be asynchronous. -/
def waits : Expr → Bool
  | .await _ _ => true
  | .name _ _ | .constant _ => false
  | .formatted items | .tuple items _ | .list items _ | .set items | .boolean _ items =>
    anyWaits items
  | .field e _ spec => waits e || anyWaits spec
  | .dict entries => anyEntryWaits entries
  | .starred e _ | .unary _ e | .attribute e _ _ | .assign _ _ e => waits e
  | .binary _ left right => waits left || waits right
  | .compare first rest => waits first || anyComparedWaits rest
  | .conditional test yes no => waits test || waits yes || waits no
  | .function list _ _ => anyDefaultWaits list
  | .comprehension kind element value clauses _ =>
    match clauses with
    | [] => false
    | .mk target source conditions asynchronous :: rest =>
      waits source || kind != .generator && (asynchronous || waits target ||
        anyWaits conditions || anyClauseWaits rest || maybeWaits value || waits element)
  | .call callee arguments keywords _ =>
    waits callee || anyWaits arguments || anyKeywordWaits keywords
  | .subscript e index => waits e || waits index
  | .slice start stop step => maybeWaits start || maybeWaits stop || maybeWaits step
  | .yield e _ => maybeWaits e

def anyWaits : List Expr → Bool
  | [] => false
  | e :: rest => waits e || anyWaits rest

def maybeWaits : Option Expr → Bool
  | none => false
  | some e => waits e

def anyComparedWaits : List (CompareOperator × Expr) → Bool
  | [] => false
  | (_, e) :: rest => waits e || anyComparedWaits rest

def anyEntryWaits : List Entry → Bool
  | [] => false
  | .mk key e :: rest => maybeWaits key || waits e || anyEntryWaits rest

def anyDefaultWaits : List Parameter → Bool
  | [] => false
  | .mk _ _ _ default :: rest => maybeWaits default || anyDefaultWaits rest

def anyClauseWaits : List Clause → Bool
  | [] => false
  | .mk target source conditions asynchronous :: rest =>
    asynchronous || waits target || waits source || anyWaits conditions || anyClauseWaits rest

def anyKeywordWaits : List Keyword → Bool
  | [] => false
  | .mk _ e _ :: rest => waits e || anyKeywordWaits rest

end

/-! ### Code -/

/-- The place code is made for: outside all functions, in a function, or in a comprehension. -/
inductive Site where
  | top | function | comprehension
deriving DecidableEq, Repr

abbrev Checked := Except Objected Unit

def unreserved (id : String) (line : Nat) : Checked := do
  if id == reservedName then throw (.reservedName, line)

def Keyword.id : Keyword → Option String × Nat
  | .mk id _ line => (id, line)

/-- Objects to keyword arguments that repeat an earlier one or are reserved. -/
def distinctKeywords (line : Nat) : List Keyword → Checked
  | [] => return
  | k :: rest => do
    if let some id := k.id.1 then
      unreserved id line
      if let some other := rest.find? fun other => other.id.1 == some id then
        throw (.repeatedKeyword id, other.id.2)
    distinctKeywords line rest

/-- The number of targets that may stand before a starred one. -/
def starLimit : Nat := 256

/-- Objects to a second starred target, and to one too far from the start. -/
def oneStar (line : Nat) : Nat → Bool → List Expr → Checked
  | _, _, [] => return
  | position, seen, e :: rest =>
    if e.isStarred then
      if seen then throw (.twoStars, line)
      else if starLimit ≤ position then throw (.farStar, line)
      else oneStar line (position + 1) true rest
    else oneStar line (position + 1) seen rest

/-- Whether a comprehension must be asynchronous. -/
def mustWait (element : Expr) (value : Option Expr) : List Clause → Bool
  | [] => false
  | .mk target _ conditions asynchronous :: rest =>
    asynchronous || waits target || anyWaits conditions || anyClauseWaits rest ||
      maybeWaits value || waits element

mutual

/-- Checks that code can be made for an expression. -/
def check (site : Site) : Expr → Checked
  | .name _ _ | .constant _ => return
  | .formatted items | .tuple items _ | .list items _ | .set items | .boolean _ items =>
    checkAll site items
  | .field e _ spec => do check site e; checkAll site spec
  | .dict entries => checkEntries site entries
  | .starred e _ | .unary _ e | .attribute e _ _ => check site e
  | .binary _ left right => do check site left; check site right
  | .compare first rest => do check site first; checkCompared site rest
  | .conditional test yes no => do check site test; check site yes; check site no
  | .function list body line => do
    (moveLast [.keywordRest] (moveLast [.keywordOnly] list)).forM fun p => unreserved p.id.1 line
    checkDefaults site false list
    checkDefaults site true list
    check .function body
  | .comprehension kind element value clauses line => do
    if kind != .generator && site != .comprehension && mustWait element value clauses then
      throw (.asynchronousComprehension, line)
    match clauses with
    | [] => return
    | .mk target source conditions _ :: rest =>
      checkTarget .comprehension target
      checkAll .comprehension conditions
      checkClauses rest
      check .comprehension element
      checkOptional .comprehension value
      -- The first source is evaluated outside the comprehension.
      check site source
  | .call callee arguments keywords line => do
    distinctKeywords line keywords
    check site callee
    checkAll site arguments
    checkKeywords site keywords
  | .subscript e index => do check site e; check site index
  | .slice start stop step => do
    checkOptional site start; checkOptional site stop; checkOptional site step
  | .assign id line e => do
    check site e
    unreserved id line
  | .await e line => do
    match site with
    | .top => throw (.awaitOutsideFunction, line)
    | .function => throw (.awaitOutsideAsyncFunction, line)
    | .comprehension => check site e
  | .yield e line => do
    if site = .top then throw (.yieldOutsideFunction, line)
    checkOptional site e

def checkTarget (site : Site) : Expr → Checked
  | .name id line => unreserved id line
  | .attribute e member line => do
    check site e
    unreserved member line
  | .subscript e index => do check site e; check site index
  | .tuple items line | .list items line => do
    oneStar line 0 false items
    checkTargets site items
  | .starred _ line => throw (.bareStar, line)
  | _ => return

def checkTargets (site : Site) : List Expr → Checked
  | [] => return
  | .starred e _ :: rest => do checkTarget site e; checkTargets site rest
  | e :: rest => do checkTarget site e; checkTargets site rest

def checkAll (site : Site) : List Expr → Checked
  | [] => return
  | e :: rest => do check site e; checkAll site rest

def checkOptional (site : Site) : Option Expr → Checked
  | none => return
  | some e => check site e

def checkCompared (site : Site) : List (CompareOperator × Expr) → Checked
  | [] => return
  | (_, e) :: rest => do check site e; checkCompared site rest

def checkEntries (site : Site) : List Entry → Checked
  | [] => return
  | .mk key e :: rest => do
    checkOptional site key; check site e; checkEntries site rest

/-- Checks the defaults of the parameters that are passed by keyword only, or of the others. -/
def checkDefaults (site : Site) (keywordOnly : Bool) : List Parameter → Checked
  | [] => return
  | .mk role _ _ default :: rest => do
    if (role == .keywordOnly) == keywordOnly then checkOptional site default
    checkDefaults site keywordOnly rest

def checkClauses : List Clause → Checked
  | [] => return
  | .mk target source conditions _ :: rest => do
    check .comprehension source
    checkTarget .comprehension target
    checkAll .comprehension conditions
    checkClauses rest

def checkKeywords (site : Site) : List Keyword → Checked
  | [] => return
  | .mk _ e _ :: rest => do check site e; checkKeywords site rest

end

/-- The first objection to an expression that stands alone. -/
def objection? (e : Expr) : Option Objected :=
  match (declare e).run [{}] with
  | .error o => some o
  | .ok _ =>
    match check .top e with
    | .error o => some o
    | .ok _ => none

end TypstMarkup.Expression
