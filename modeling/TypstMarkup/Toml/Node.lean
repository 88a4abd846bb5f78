import TypstMarkup.Fault
import TypstMarkup.OrderedMap
import TypstMarkup.Toml.Moment

/-!
What a TOML document says: texts, numbers, truth values, moments, arrays and tables. A table is a
list of entries in the order in which its keys were first written; reading keeps them distinct.
-/
namespace TypstMarkup.Toml

inductive Node where
  | text (s : String)
  | integer (n : Int)
  | float (x : Binary64)
  | boolean (b : Bool)
  | moment (m : Moment)
  | array (items : List Node)
  | table (entries : List (String × Node))
  /-- A table that is written as a value. -/
  | inline (entries : List (String × Node))
deriving Inhabited

abbrev Table := List (String × Node)

namespace Node

/-- Whether a node is a table with lines of its own. -/
def isTable : Node → Bool
  | .table _ => true
  | _ => false

def isTables : Node → Bool
  | .array items => !items.isEmpty && items.all isTable
  | _ => false

mutual

def toValue : Node → Value
  | .text s => .str s
  | .integer n => .int n
  | .float x => .float x
  | .boolean b => .bool b
  | .moment m => .foreign (.declared "datetime" m.kindName) m.shown
  | .array items => .list (toValues items)
  | .table entries | .inline entries => .dict (toEntries entries)

def toValues : List Node → List Value
  | [] => []
  | node :: rest => toValue node :: toValues rest

def toEntries : List (String × Node) → List (Value × Value)
  | [] => []
  | (key, node) :: rest => (.str key, toValue node) :: toEntries rest

end

def isDictionary : Value → Bool
  | .dict _ => true
  | _ => false

mutual

/-- The node for a value, if there is one. Texts of every kind become texts, and tuples arrays; in a
table, the tables come last. -/
def ofValue? : Value → Except Fault Node
  | .str s | .markup s => .ok (.text s)
  | .char c => .ok (.text (String.singleton c))
  | .int n => if (Value.int n).overlong then .error .tooManyDigits else .ok (.integer n)
  | .float x => .ok (.float x)
  | .bool b => .ok (.boolean b)
  | .list items | .tuple items => do return .array (← ofValues? items)
  | .dict entries => do
    return .table ((← ofEntries? false entries) ++ (← ofEntries? true entries))
  | v => .error (.unwritable v.kind)

def ofValues? : List Value → Except Fault (List Node)
  | [] => .ok []
  | v :: rest => do return (← ofValue? v) :: (← ofValues? rest)

/-- The entries of a table for those of a dictionary: the dictionaries among them, or all others. -/
def ofEntries? (tables : Bool) : List (Value × Value) → Except Fault (List (String × Node))
  | [] => .ok []
  | (key, v) :: rest => do
    if isDictionary v == tables then
      let node ← ofValue? v
      return (key.plainText, node) :: (← ofEntries? tables rest)
    else ofEntries? tables rest

end

end Node

namespace Table

/-- The entries of a document for those of a dictionary, in the same order. -/
def ofEntries? (entries : List (Value × Value)) : Except Fault Table :=
  entries.mapM fun entry => do return (entry.1.plainText, ← Node.ofValue? entry.2)

def get? (entries : Table) (key : String) : Option Node :=
  (entries.find? fun entry => entry.1 == key).map Prod.snd

end Table

end TypstMarkup.Toml
