/-!
Kinds of values. A kind has a home and a name, and a lineage: the kinds it belongs to, itself first
and `object` last. Abstract kinds have no values of their own.
-/
namespace TypstMarkup

inductive Kind where
  | object | null | bool | int | float | complex | decimal | fraction | char | str | verbatim
  | markup | raw | pattern | flags | bytes | mode | range | list | tuple | dict | set | matrix
  | number | complexNumber | realNumber | rationalNumber | integral
  | mapping | sequence | reversible | collection | sized | iterable | container
  | declared (home name : String)
deriving DecidableEq, Repr, Inhabited

namespace Kind

def home : Kind → String
  | .object | .null | .bool | .int | .float | .complex | .str | .bytes | .range | .list | .tuple
  | .dict | .set => "builtins"
  | .decimal => "decimal"
  | .fraction => "fractions"
  | .char | .verbatim | .markup | .raw | .matrix => "typstry.core.types"
  | .pattern | .flags => "re"
  | .mode => "typstry.core.modes"
  | .number | .complexNumber | .realNumber | .rationalNumber | .integral => "numbers"
  | .mapping | .sequence | .reversible | .collection | .sized | .iterable | .container =>
    "collections.abc"
  | .declared home _ => home

def name : Kind → String
  | .object => "object"
  | .null => "NoneType"
  | .bool => "bool"
  | .int => "int"
  | .float => "float"
  | .complex => "complex"
  | .decimal => "Decimal"
  | .fraction => "Fraction"
  | .char => "Char"
  | .str => "str"
  | .verbatim => "TypstText"
  | .markup => "TypstString"
  | .raw => "Raw"
  | .pattern => "Pattern"
  | .flags => "RegexFlag"
  | .bytes => "bytes"
  | .mode => "Mode"
  | .range => "range"
  | .list => "list"
  | .tuple => "tuple"
  | .dict => "dict"
  | .set => "set"
  | .matrix => "Matrix"
  | .number => "Number"
  | .complexNumber => "Complex"
  | .realNumber => "Real"
  | .rationalNumber => "Rational"
  | .integral => "Integral"
  | .mapping => "Mapping"
  | .sequence => "Sequence"
  | .reversible => "Reversible"
  | .collection => "Collection"
  | .sized => "Sized"
  | .iterable => "Iterable"
  | .container => "Container"
  | .declared _ name => name

def qualifiedName (kind : Kind) : String :=
  kind.home ++ "." ++ kind.name

/-- The shown form of a kind; the home of the basic kinds is left out. -/
def shown (kind : Kind) : String :=
  if kind.home == "builtins" then s!"<class '{kind.name}'>" else s!"<class '{kind.qualifiedName}'>"

/-- The name of a kind in messages about operations; some kinds are named with their homes. -/
def operandName (kind : Kind) : String :=
  match kind with
  | .decimal | .pattern | .declared "datetime" _ => kind.qualifiedName
  | kind => kind.name

/-- The lineage of a kind by derivation alone. A declared kind without a declaration derives from
`object`. -/
def lineage : Kind → List Kind
  | .object => [.object]
  | .bool => [.bool, .int, .object]
  | .flags => [.flags, .int, .object]
  | .fraction =>
    [.fraction, .rationalNumber, .realNumber, .complexNumber, .number, .object]
  | .char => [.char, .str, .object]
  | .markup => [.markup, .str, .object]
  | .matrix => [.matrix, .sequence, .reversible, .collection, .sized, .iterable, .container, .object]
  | .complexNumber => [.complexNumber, .number, .object]
  | .realNumber => [.realNumber, .complexNumber, .number, .object]
  | .rationalNumber => [.rationalNumber, .realNumber, .complexNumber, .number, .object]
  | .integral => [.integral, .rationalNumber, .realNumber, .complexNumber, .number, .object]
  | .mapping => [.mapping, .collection, .sized, .iterable, .container, .object]
  | .sequence => [.sequence, .reversible, .collection, .sized, .iterable, .container, .object]
  | .reversible => [.reversible, .iterable, .object]
  | .collection => [.collection, .sized, .iterable, .container, .object]
  | kind => [kind, .object]

/-- The abstract kinds a concrete kind is counted among without deriving from them, the most
specific first. -/
def adopted : Kind → List Kind
  | .int => [.integral, .rationalNumber, .realNumber, .complexNumber, .number]
  | .float | .complex | .decimal => [.number]
  | .dict => [.mapping]
  | _ => []

end Kind

end TypstMarkup
