import TypstMarkup.Expression.Formatted

/-!
Reading expressions. The grammar is read by recursive descent with at most two lexemes of
look-ahead; binary operators are read level by level. The recursion is bounded by a budget that
grows with the length of the source, which no expression exhausts.
-/
namespace TypstMarkup.Expression

/-- A step of reading: it takes lexemes from the front or fails. -/
abbrev Reader (α : Type) := StateT (List Lexeme) Option α

def keywords : List String :=
  ["False", "None", "True", "and", "as", "assert", "async", "await", "break", "class", "continue",
    "def", "del", "elif", "else", "except", "finally", "for", "from", "global", "if", "import", "in",
    "is", "lambda", "nonlocal", "not", "or", "pass", "raise", "return", "try", "while", "with",
    "yield"]

def isKeyword (word : String) : Bool := keywords.contains word

namespace Reader

def line : Reader Nat := return ((← get).head?.map Lexeme.line).getD 1

def isSymbol (s : String) : Reader Bool := do
  match (← get).head?.map Lexeme.token with
  | some (.symbol t) => return t == s
  | _ => return false

def isWord (word : String) : Reader Bool := do
  match (← get).head?.map Lexeme.token with
  | some (.name id) => return id == word
  | _ => return false

def takeSymbol (s : String) : Reader Bool := do
  if ← isSymbol s then
    modify (List.drop 1)
    return true
  else return false

def takeWord (word : String) : Reader Bool := do
  if ← isWord word then
    modify (List.drop 1)
    return true
  else return false

def symbol (s : String) : Reader Unit := do guard (← takeSymbol s)

def word (s : String) : Reader Unit := do guard (← takeWord s)

def name : Reader String := do
  match ← get with
  | ⟨.name id, _⟩ :: rest =>
    guard (!isKeyword id)
    set rest
    return id
  | _ => failure

def startsAssignment : Reader Bool := do
  match ← get with
  | ⟨.name id, _⟩ :: ⟨.symbol ":=", _⟩ :: _ => return !isKeyword id
  | _ => return false

def startsClause : Reader Bool := return (← isWord "for") || (← isWord "async")

def atClosing : Reader Bool := do
  match (← get).head?.map Lexeme.token with
  | some (.symbol s) => return isClosing s
  | _ => return false

/-- Reads one or more items with commas between them, and whether a comma follows the last one.
After a comma the list may end where `ends` says so. -/
def separated {α : Type} (item : Reader α) (ends : Reader Bool) : Nat → Reader (List α × Bool)
  | 0 => failure
  | fuel + 1 => do
    let a ← item
    if ← takeSymbol "," then
      if ← ends then return ([a], true)
      let (rest, trailing) ← separated item ends fuel
      return (a :: rest, trailing)
    else return ([a], false)

def untilClosing {α : Type} (item : Reader α) (close : String) (fuel : Nat) : Reader (List α) := do
  let (items, _) ← separated item (isSymbol close) fuel
  symbol close
  return items

def others (separator : String) (operand : Reader Expr) : Nat → Reader (List Expr)
  | 0 => failure
  | fuel + 1 => do
    if ← takeWord separator then
      let e ← operand
      return e :: (← others separator operand fuel)
    else return []

def given {α : Type} (isLeftOut : Bool) (item : Reader α) : Reader (Option α) := do
  if isLeftOut then return none else return some (← item)

def adjacentTexts : Reader (List Lexeme) := do
  let isText (l : Lexeme) : Bool :=
    match l.token with
    | .text _ | .bytes _ | .formatted _ _ => true
    | _ => false
  let texts := (← get).takeWhile isText
  modify (List.dropWhile isText)
  return texts

end Reader

/-- The operators of a level of binary operators, the loosest level first. -/
def levelOperators : List (List (String × Operator)) :=
  [[("|", .bitOr)], [("^", .bitXor)], [("&", .bitAnd)], [("<<", .shiftLeft), (">>", .shiftRight)],
    [("+", .add), ("-", .sub)],
    [("*", .mul), ("/", .div), ("//", .floorDiv), ("%", .mod), ("@", .matMul)]]

def takeOperator (operators : List (String × Operator)) : Reader (Option Operator) := do
  match (← get).head?.map Lexeme.token with
  | some (.symbol s) =>
    match operators.find? fun entry => entry.1 == s with
    | some (_, op) =>
      modify (List.drop 1)
      return some op
    | none => return none
  | _ => return none

def comparisonSigns : List (String × CompareOperator) :=
  [("==", .equal), ("!=", .notEqual), ("<", .order .less), ("<=", .order .lessOrEqual),
    (">", .order .greater), (">=", .order .greaterOrEqual)]

def takeComparison : Reader (Option CompareOperator) := do
  match ← get with
  | ⟨.name "in", _⟩ :: rest => set rest; return some .member
  | ⟨.name "not", _⟩ :: ⟨.name "in", _⟩ :: rest => set rest; return some .notMember
  | ⟨.name "is", _⟩ :: ⟨.name "not", _⟩ :: rest => set rest; return some .notIdentical
  | ⟨.name "is", _⟩ :: rest => set rest; return some .identical
  | ⟨.symbol s, _⟩ :: rest =>
    match comparisonSigns.find? fun entry => entry.1 == s with
    | some (_, op) => set rest; return some op
    | none => return none
  | _ => return none

mutual

def isTarget : Expr → Bool
  | .name _ _ | .attribute _ _ _ | .subscript _ _ => true
  | .tuple items _ | .list items _ => areTargets items
  | .starred e _ => isTarget e
  | _ => false

def areTargets : List Expr → Bool
  | [] => true
  | e :: rest => isTarget e && areTargets rest

end

inductive ParameterItem where
  | plain (id : String) (line : Nat) (default : Option Expr)
  | slash
  | star
  | rest (id : String) (line : Nat)
  | keywordRest (id : String) (line : Nat)

def keywordParameters? : List ParameterItem → Option (List Parameter)
  | [] => some []
  | [.keywordRest id line] => some [.mk .keywordRest id line none]
  | .plain id line default :: more =>
    (keywordParameters? more).map (.mk .keywordOnly id line default :: ·)
  | _ => none

/-- Removes the slash of a parameter list: there is at most one, after a parameter and before any
star. -/
def dropSlash? (slashAllowed : Bool) : List ParameterItem → Option (List ParameterItem)
  | [] => some []
  | .slash :: more => if slashAllowed && !more.any (· matches .slash) then some more else none
  | .plain id line default :: more =>
    (dropSlash? true more).map (.plain id line default :: ·)
  | item :: more => if more.any (· matches .slash) then none else some (item :: more)

/-- The parameters of a list without a slash. Parameters with a default come last among those
before a star, and a bare star needs a name after it. -/
def parameters? (defaulted : Bool) : List ParameterItem → Option (List Parameter)
  | [] => some []
  | .plain id line default :: more =>
    if defaulted && default.isNone then none
    else (parameters? default.isSome more).map (.mk .positional id line default :: ·)
  | .star :: .plain id line default :: more =>
    keywordParameters? (.plain id line default :: more)
  | .rest id line :: more => (keywordParameters? more).map (.mk .rest id line none :: ·)
  | [.keywordRest id line] => some [.mk .keywordRest id line none]
  | _ => none

open Reader

mutual

def namedExpression : Nat → Reader Expr
  | 0 => failure
  | fuel + 1 => do
    if ← startsAssignment then
      let line ← line
      let id ← name
      symbol ":="
      return .assign id line (← expression fuel)
    else expression fuel
termination_by structural fuel => fuel

/-- Reads an expression: an anonymous function, a conditional, or a disjunction. -/
def expression : Nat → Reader Expr
  | 0 => failure
  | fuel + 1 => do
    let line ← line
    if ← takeWord "lambda" then
      let items : List ParameterItem ←
        if ← isSymbol ":" then pure []
        else
          let (items, _) ← separated (parameterItem fuel) (isSymbol ":") fuel
          pure items
      symbol ":"
      let parameters ← (dropSlash? false items).bind (parameters? false)
      return .function parameters (← expression fuel) line
    else
      let yes ← disjunction fuel
      if ← takeWord "if" then
        let test ← disjunction fuel
        word "else"
        return .conditional test yes (← expression fuel)
      else return yes
termination_by structural fuel => fuel

def parameterItem : Nat → Reader ParameterItem
  | 0 => failure
  | fuel + 1 => do
    let line ← line
    if ← takeSymbol "/" then return .slash
    else if ← takeSymbol "**" then
      let line ← Reader.line
      return .keywordRest (← name) line
    else if ← takeSymbol "*" then
      if ← isSymbol "," then return .star
      else
        let line ← Reader.line
        return .rest (← name) line
    else
      let id ← name
      if ← takeSymbol "=" then return .plain id line (some (← expression fuel))
      else return .plain id line none
termination_by structural fuel => fuel

def disjunction : Nat → Reader Expr
  | 0 => failure
  | fuel + 1 => do
    let first ← conjunction fuel
    match ← others "or" (conjunction fuel) fuel with
    | [] => return first
    | rest => return .boolean false (first :: rest)
termination_by structural fuel => fuel

def conjunction : Nat → Reader Expr
  | 0 => failure
  | fuel + 1 => do
    let first ← inversion fuel
    match ← others "and" (inversion fuel) fuel with
    | [] => return first
    | rest => return .boolean true (first :: rest)
termination_by structural fuel => fuel

def inversion : Nat → Reader Expr
  | 0 => failure
  | fuel + 1 => do
    if ← takeWord "not" then return .unary .negation (← inversion fuel)
    else
      let first ← binary fuel 0
      match ← comparisons fuel with
      | [] => return first
      | rest => return .compare first rest
termination_by structural fuel => fuel

/-- Reads the operators and operands of a chain of comparisons after its first operand. -/
def comparisons : Nat → Reader (List (CompareOperator × Expr))
  | 0 => failure
  | fuel + 1 => do
    match ← takeComparison with
    | some op =>
      let e ← binary fuel 0
      return (op, e) :: (← comparisons fuel)
    | none => return []
termination_by structural fuel => fuel

/-- Reads operands joined by operators of a level or of tighter ones. -/
def binary : Nat → Nat → Reader Expr
  | 0, _ => failure
  | fuel + 1, level => do
    match levelOperators[level]? with
    | some operators => binaryRest fuel level operators (← binary fuel (level + 1))
    | none => factor fuel
termination_by structural fuel => fuel

/-- Reads the operators of a level and their right operands, grouping to the left. -/
def binaryRest : Nat → Nat → List (String × Operator) → Expr → Reader Expr
  | 0, _, _, _ => failure
  | fuel + 1, level, operators, left => do
    match ← takeOperator operators with
    | some op => binaryRest fuel level operators (.binary op left (← binary fuel (level + 1)))
    | none => return left
termination_by structural fuel => fuel

def factor : Nat → Reader Expr
  | 0 => failure
  | fuel + 1 => do
    if ← takeSymbol "+" then return .unary .positive (← factor fuel)
    else if ← takeSymbol "-" then return .unary .negative (← factor fuel)
    else if ← takeSymbol "~" then return .unary .complement (← factor fuel)
    else
      let line ← line
      let base ←
        if ← takeWord "await" then
          let e ← primary fuel
          pure (.await e line)
        else primary fuel
      if ← takeSymbol "**" then return .binary .pow base (← factor fuel) else return base
termination_by structural fuel => fuel

/-- Reads an atom with the members, arguments and indices that follow it. -/
def primary : Nat → Reader Expr
  | 0 => failure
  | fuel + 1 => do
    let line ← line
    trailers fuel line (← atom fuel)
termination_by structural fuel => fuel

def trailers : Nat → Nat → Expr → Reader Expr
  | 0, _, _ => failure
  | fuel + 1, start, e => do
    let line ← line
    if ← takeSymbol "." then
      let line ← Reader.line
      let member ← name
      trailers fuel start (.attribute e member line)
    else if ← takeSymbol "(" then
      if ← takeSymbol ")" then trailers fuel start (.call e [] [] start)
      else
        let (arguments, keywords) ← arguments fuel line
        trailers fuel start (.call e arguments keywords start)
    else if ← takeSymbol "[" then
      let (items, trailing) ← separated (subscriptItem fuel) (isSymbol "]") fuel
      symbol "]"
      match items, trailing with
      | [index], false =>
        let index := if index.isStarred then Expr.tuple [index] line else index
        trailers fuel start (.subscript e index)
      | items, _ => trailers fuel start (.subscript e (.tuple items line))
    else return e
termination_by structural fuel => fuel

/-- Reads the arguments of a call to its closing bracket: one comprehension alone, or a list. -/
def arguments : Nat → Nat → Reader (List Expr × List Keyword)
  | 0, _ => failure
  | fuel + 1, line => do
    match ← get with
    | ⟨.name _, _⟩ :: ⟨.symbol "=", _⟩ :: _ | ⟨.symbol "*", _⟩ :: _ | ⟨.symbol "**", _⟩ :: _ =>
      argumentList fuel false false
    | _ =>
      let first ← namedExpression fuel
      if ← startsClause then
        let clauses ← clauses fuel
        symbol ")"
        return ([.comprehension .generator first none clauses line], [])
      else if ← takeSymbol "," then
        let (arguments, keywords) ← argumentList fuel false false
        return (first :: arguments, keywords)
      else
        symbol ")"
        return ([first], [])
termination_by structural fuel => fuel

/-- Reads the rest of an argument list to its closing bracket. Positional arguments come before all
keyword arguments, and no starred one follows the entries of a dictionary. -/
def argumentList : Nat → Bool → Bool → Reader (List Expr × List Keyword)
  | 0, _, _ => failure
  | fuel + 1, afterKeyword, afterEntries => do
    let line ← line
    if ← takeSymbol ")" then return ([], [])
    else
      match ← get with
      | ⟨.name id, _⟩ :: ⟨.symbol "=", _⟩ :: rest =>
        guard (!isKeyword id)
        set rest
        let e ← expression fuel
        let (arguments, keywords) ← argumentsAfter fuel true afterEntries
        return (arguments, .mk (some id) e line :: keywords)
      | ⟨.symbol "**", _⟩ :: rest =>
        set rest
        let e ← expression fuel
        let (arguments, keywords) ← argumentsAfter fuel true true
        return (arguments, .mk none e line :: keywords)
      | ⟨.symbol "*", _⟩ :: rest =>
        guard (!afterEntries)
        set rest
        let e ← expression fuel
        let (arguments, keywords) ← argumentsAfter fuel afterKeyword afterEntries
        return (.starred e line :: arguments, keywords)
      | _ =>
        guard (!afterKeyword)
        let e ← namedExpression fuel
        let (arguments, keywords) ← argumentsAfter fuel afterKeyword afterEntries
        return (e :: arguments, keywords)
termination_by structural fuel => fuel

def argumentsAfter : Nat → Bool → Bool → Reader (List Expr × List Keyword)
  | 0, _, _ => failure
  | fuel + 1, afterKeyword, afterEntries => do
    if ← takeSymbol "," then argumentList fuel afterKeyword afterEntries
    else
      symbol ")"
      return ([], [])
termination_by structural fuel => fuel

def subscriptItem : Nat → Reader Expr
  | 0 => failure
  | fuel + 1 => do
    let line ← line
    if ← takeSymbol "*" then return .starred (← expression fuel) line
    else if ← startsAssignment then namedExpression fuel
    else
      let start ← Reader.given (← isSymbol ":") (expression fuel)
      if ← takeSymbol ":" then
        let stop ← Reader.given ((← isSymbol ":") || (← isSymbol ",") || (← atClosing))
          (expression fuel)
        let step ←
          if ← takeSymbol ":" then
            Reader.given ((← isSymbol ",") || (← atClosing)) (expression fuel)
          else pure none
        return .slice start stop step
      else
        let some e := start | failure
        return e
termination_by structural fuel => fuel

def displayItem : Nat → Reader Expr
  | 0 => failure
  | fuel + 1 => do
    let line ← line
    if ← takeSymbol "*" then return .starred (← binary fuel 0) line else namedExpression fuel
termination_by structural fuel => fuel

def dictEntry : Nat → Reader Entry
  | 0 => failure
  | fuel + 1 => do
    if ← takeSymbol "**" then return .mk none (← binary fuel 0)
    else
      let key ← expression fuel
      symbol ":"
      return .mk (some key) (← expression fuel)
termination_by structural fuel => fuel

def clauses : Nat → Reader (List Clause)
  | 0 => failure
  | fuel + 1 => do
    let asynchronous ← takeWord "async"
    word "for"
    let line ← line
    let (items, trailing) ← separated (targetItem fuel) (isWord "in") fuel
    let target : Expr := match items, trailing with
      | [e], false => e
      | items, _ => .tuple items line
    guard (isTarget target)
    word "in"
    let source ← disjunction fuel
    let conditions ← others "if" (disjunction fuel) fuel
    let clause : Clause := .mk target source conditions asynchronous
    if ← startsClause then return clause :: (← clauses fuel) else return [clause]
termination_by structural fuel => fuel

def targetItem : Nat → Reader Expr
  | 0 => failure
  | fuel + 1 => do
    let line ← line
    if ← takeSymbol "*" then return .starred (← binary fuel 0) line else binary fuel 0
termination_by structural fuel => fuel

/-- Reads a list, a set or a comprehension of their kinds after its first item, to the closing
bracket. -/
def display : Nat → ComprehensionKind → String → Nat → Expr → Reader Expr
  | 0, _, _, _, _ => failure
  | fuel + 1, kind, close, line, first => do
    if ← startsClause then
      guard (!first.isStarred)
      let clauses ← clauses fuel
      symbol close
      return .comprehension kind first none clauses line
    else
      let rest ←
        if ← takeSymbol "," then
          if ← takeSymbol close then pure [] else untilClosing (displayItem fuel) close fuel
        else
          symbol close
          pure []
      match kind with
      | .set => return .set (first :: rest)
      | _ => return .list (first :: rest) line
termination_by structural fuel => fuel

def atom : Nat → Reader Expr
  | 0 => failure
  | fuel + 1 => do
    let line ← line
    match ← get with
    | ⟨.number v, _⟩ :: rest => set rest; return .constant v
    | ⟨.text _, _⟩ :: _ | ⟨.bytes _, _⟩ :: _ | ⟨.formatted _ _, _⟩ :: _ =>
      texts fuel (← adjacentTexts)
    | ⟨.name id, _⟩ :: rest =>
      set rest
      if id == "None" then return .constant .null
      else if id == "True" then return .constant (.bool true)
      else if id == "False" then return .constant (.bool false)
      else
        guard (!isKeyword id)
        return .name id line
    | ⟨.symbol s, _⟩ :: rest =>
      set rest
      if s == "..." then return .constant (.foreign (.declared "builtins" "ellipsis") "Ellipsis")
      else if s == "(" then parenthesised fuel line
      else if s == "[" then
        if ← takeSymbol "]" then return .list [] line
        else display fuel .list "]" line (← displayItem fuel)
      else if s == "\x7b" then braced fuel line
      else failure
    | _ => failure
termination_by structural fuel => fuel

/-- Reads a group, a tuple or a generator after its opening bracket. -/
def parenthesised : Nat → Nat → Reader Expr
  | 0, _ => failure
  | fuel + 1, start => do
    let line ← line
    if ← takeSymbol ")" then return .tuple [] start
    else if ← takeWord "yield" then
      let e ←
        if ← takeWord "from" then
          let e ← expression fuel
          pure (some e)
        else if ← isSymbol ")" then pure none
        else
          match ← separated (yieldItem fuel) (isSymbol ")") fuel with
          | ([e], false) => pure (some e)
          | (items, _) => pure (some (.tuple items line))
      symbol ")"
      return .yield e line
    else
      let first ← displayItem fuel
      if ← startsClause then
        guard (!first.isStarred)
        let clauses ← clauses fuel
        symbol ")"
        return .comprehension .generator first none clauses start
      else if ← takeSymbol "," then
        if ← takeSymbol ")" then return .tuple [first] start
        else return .tuple (first :: (← untilClosing (displayItem fuel) ")" fuel)) start
      else
        guard (!first.isStarred)
        symbol ")"
        return first
termination_by structural fuel => fuel

def yieldItem : Nat → Reader Expr
  | 0 => failure
  | fuel + 1 => do
    let line ← line
    if ← takeSymbol "*" then return .starred (← binary fuel 0) line else expression fuel
termination_by structural fuel => fuel

/-- Reads a dictionary, a set or a comprehension of their kinds after its opening brace. -/
def braced : Nat → Nat → Reader Expr
  | 0, _ => failure
  | fuel + 1, start => do
    if ← takeSymbol "\x7d" then return .dict []
    else if ← isSymbol "**" then
      return .dict (← untilClosing (dictEntry fuel) "\x7d" fuel)
    else if (← isSymbol "*") || (← startsAssignment) then
      display fuel .set "\x7d" start (← displayItem fuel)
    else
      let first ← expression fuel
      if ← takeSymbol ":" then
        let v ← expression fuel
        if ← startsClause then
          let clauses ← clauses fuel
          symbol "\x7d"
          return .comprehension .dict first (some v) clauses start
        else
          let rest ←
            if ← takeSymbol "," then
              if ← takeSymbol "\x7d" then pure [] else untilClosing (dictEntry fuel) "\x7d" fuel
            else
              symbol "\x7d"
              pure []
          return .dict (.mk (some first) v :: rest)
      else display fuel .set "\x7d" start first
termination_by structural fuel => fuel

/-- Joins adjacent texts; texts and bytes do not mix. -/
def texts : Nat → List Lexeme → Reader Expr
  | 0, _ => failure
  | fuel + 1, lexemes => do
    let data := lexemes.filterMap fun l =>
      match l.token with
      | .bytes data => some data
      | _ => none
    if data.length = lexemes.length then return .constant (.bytes data.flatten)
    else
      guard data.isEmpty
      let parts ← lexemes.mapM fun l =>
        match l.token with
        | .text s => pure [.constant (.str (String.ofList s))]
        | .formatted raw body => do
          let pieces ← pieces? raw body
          pieces.mapM (piece fuel (l.line + body.count '\n'))
        | _ => failure
      if lexemes.any fun l => l.token matches .formatted _ _ then
        return .formatted parts.flatten
      else
        return .constant (.str (String.ofList (lexemes.flatMap fun l =>
          match l.token with
          | .text s => s
          | _ => [])))
termination_by structural fuel => fuel

/-- Reads the expression of a piece of a formatted text whose last line is given. -/
def piece : Nat → Nat → Piece → Reader Expr
  | 0, _, _ => failure
  | fuel + 1, lastLine, p => do
    match p with
    | .literal text => return .constant (.str (String.ofList text))
    | .field source lineEndsAfter shown conversion spec =>
      let lexemes ← lexFrom (source.length + 3) { line := lastLine - lineEndsAfter }
        ('(' :: source ++ [')'])
      let (e, rest) ← (expression fuel).run lexemes
      guard rest.isEmpty
      let spec ← spec.mapM (piece fuel lastLine)
      let field := Expr.field e conversion spec
      if shown.isEmpty then return field
      else return .formatted [.constant (.str (String.ofList shown)), field]
termination_by structural fuel => fuel

end

/-- Reads one expression or several with commas between them to the end of the lexemes. -/
def expressions (fuel : Nat) : Reader Expr := do
  let line ← line
  let atEnd : Reader Bool := do
    match ← get with
    | [] => return true
    | l :: _ => return l.token matches .lineEnd
  let (items, trailing) ← separated (expression fuel) atEnd fuel
  guard ((← get).all fun l => l.token matches .lineEnd)
  match items, trailing with
  | [e], false => return e
  | items, _ => return .tuple items line

/-- The expression that a source is, if it is one. -/
def parse? (source : List Char) : Option Expr := do
  let lexemes ← lex? source
  let (e, _) ← (expressions (30 * source.length + 100)).run lexemes
  return e

end TypstMarkup.Expression
