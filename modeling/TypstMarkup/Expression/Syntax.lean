import TypstMarkup.Value.Order

/-!
Expressions of the language that splices are written in. Places that a check may have to report keep
the number of their line.
-/
namespace TypstMarkup.Expression

inductive UnaryOperator where
  | negative | positive | complement | negation
deriving DecidableEq, Repr

inductive CompareOperator where
  | equal | notEqual | order (c : Comparison) | identical | notIdentical | member | notMember
deriving DecidableEq, Repr

inductive ComprehensionKind where
  | list | set | dict | generator
deriving DecidableEq, Repr

inductive Conversion where
  | none | shown | ascii | plain
deriving DecidableEq, Repr

inductive ParameterRole where
  | positionalOnly | positional | rest | keywordOnly | keywordRest
deriving DecidableEq, Repr

mutual

inductive Expr where
  | name (id : String) (line : Nat)
  | constant (v : Value)
  /-- A text with fields. -/
  | formatted (pieces : List Expr)
  | field (e : Expr) (conversion : Conversion) (spec : List Expr)
  | tuple (items : List Expr) (line : Nat)
  | list (items : List Expr) (line : Nat)
  | set (items : List Expr)
  | dict (entries : List Entry)
  | starred (e : Expr) (line : Nat)
  | unary (op : UnaryOperator) (e : Expr)
  | binary (op : Operator) (left right : Expr)
  /-- A chain of `and` or of `or`. -/
  | boolean (conjunction : Bool) (items : List Expr)
  | compare (first : Expr) (rest : List (CompareOperator × Expr))
  | conditional (test yes no : Expr)
  | function (parameters : List Parameter) (body : Expr) (line : Nat)
  | comprehension (kind : ComprehensionKind) (element : Expr) (value : Option Expr)
      (clauses : List Clause) (line : Nat)
  | call (callee : Expr) (arguments : List Expr) (keywords : List Keyword) (line : Nat)
  | attribute (e : Expr) (member : String) (line : Nat)
  | subscript (e index : Expr)
  | slice (start stop step : Option Expr)
  | assign (id : String) (line : Nat) (e : Expr)
  | await (e : Expr) (line : Nat)
  | yield (e : Option Expr) (line : Nat)

/-- An entry of a dictionary; without a key, the entries of another dictionary. -/
inductive Entry where
  | mk (key : Option Expr) (value : Expr)

inductive Parameter where
  | mk (role : ParameterRole) (id : String) (line : Nat) (default : Option Expr)

inductive Clause where
  | mk (target source : Expr) (conditions : List Expr) (asynchronous : Bool)

/-- A keyword argument; without a name, the entries of a dictionary. -/
inductive Keyword where
  | mk (id : Option String) (value : Expr) (line : Nat)

end

instance : Inhabited Expr := ⟨.constant .null⟩

namespace Expr

def isStarred : Expr → Bool
  | .starred _ _ => true
  | _ => false

end Expr

end TypstMarkup.Expression
