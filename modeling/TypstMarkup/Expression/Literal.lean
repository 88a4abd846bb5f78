import TypstMarkup.Expression.Parser

/-!
Literals: expressions that are values by themselves. Constants, containers of literals and the
empty set in its call form are literals, and so are numbers with a sign and sums of a real and an
imaginary number.
-/
namespace TypstMarkup.Expression

def noLiteral : Fault :=
  .failed .valueError "malformed node or string"

/-- Whether a value is a number a literal may be built from. -/
def isPlainNumber : Value → Bool
  | .int _ | .float _ | .complex _ _ => true
  | _ => false

def numberOf : Expr → Except Fault Value
  | .constant v => if isPlainNumber v then .ok v else .error noLiteral
  | _ => .error noLiteral

/-- The number of a constant with at most one sign. -/
def signedNumberOf : Expr → Except Fault Value
  | .unary .positive e => do (← numberOf e).positive
  | .unary .negative e => do (← numberOf e).negative
  | e => numberOf e

def complexSum (op : Operator) (left right : Expr) : Except Fault Value := do
  let v ← signedNumberOf left
  let w ← numberOf right
  match v, w with
  | .int _, .complex _ _ | .float _, .complex _ _ =>
    if op == .add || op == .sub then Value.operate op v w else throw noLiteral
  | _, _ => throw noLiteral

mutual

def literalOf : Expr → Except Fault Value
  | .constant v => .ok v
  | .tuple items _ => do return .tuple (← literalsOf items)
  | .list items _ => do return .list (← literalsOf items)
  | .set items => do Value.ofMembers? (← literalsOf items)
  | .dict entries => do
    let keys ← keysOf entries
    Value.ofEntries? (keys.zip (← valuesOf entries))
  | .call (.name "set" _) [] [] _ => .ok (.set [])
  | .binary op left right => complexSum op left right
  | e => signedNumberOf e

def literalsOf : List Expr → Except Fault (List Value)
  | [] => .ok []
  | e :: rest => do return (← literalOf e) :: (← literalsOf rest)

def keysOf : List Entry → Except Fault (List Value)
  | [] => .ok []
  | .mk (some key) _ :: rest => do return (← literalOf key) :: (← keysOf rest)
  | .mk none _ :: _ => .error noLiteral

def valuesOf : List Entry → Except Fault (List Value)
  | [] => .ok []
  | .mk _ e :: rest => do return (← literalOf e) :: (← valuesOf rest)

end

/-- The value of the literal that a source is; blanks in front of it do not count. -/
def literal? (source : List Char) : Except Fault Value :=
  match parse? (source.dropWhile fun c => c == ' ' || c == '\t') with
  | some e => literalOf e
  | none => .error (.failed .syntaxError "invalid syntax")

end TypstMarkup.Expression
