import TypstMarkup.Text.Part
import TypstMarkup.Toml.Node

/-!
Nodes by key. A document may name keys below something that holds none. What happens then depends on
the node: each of the operations below says how it fails there.
-/
namespace TypstMarkup.Toml

/-- Why a document cannot be read: it is no TOML, or a key runs through a node in a way that the
node does not allow. -/
inductive Refusal where
  | malformed
  | failure (cause : Fault)

namespace Node

def kind : Node → Kind
  | .text _ => .str
  | .integer _ => .int
  | .float _ => .float
  | .boolean _ => .bool
  | .moment m => .declared "datetime" m.kindName
  | .array _ => .list
  | .table _ => .dict
  | .inline _ => .declared "toml" "DynamicInlineTableDict"

def entries? : Node → Option Table
  | .table entries | .inline entries => some entries
  | _ => none

/-- A table in the same form with other entries; other nodes have none. -/
def withEntries (node : Node) (entries : Table) : Node :=
  match node with
  | .table _ => .table entries
  | .inline _ => .inline entries
  | node => node

def notSubscriptable (node : Node) : Fault :=
  match node with
  | .text _ => .failed .typeError "string indices must be integers, not 'str'"
  | .array _ => .failed .typeError "list indices must be integers or slices, not str"
  | node => .failed .typeError s!"'{node.kind.operandName}' object is not subscriptable"

/-- The node under a key, if the key is taken. -/
def entry? (node : Node) (key : String) : Except Fault (Option Node) :=
  match node.entries? with
  | some entries => .ok (Table.get? entries key)
  | none => .error node.notSubscriptable

/-- Whether a key occurs in a node: a table has it, an array holds it as a text, a text contains
it. -/
def mentions? (node : Node) (key : String) : Except Fault Bool :=
  match node with
  | .table entries | .inline entries => .ok (Table.get? entries key).isSome
  | .array items => .ok (items.any fun item => match item with
      | .text s => s == key
      | _ => false)
  | .text s => .ok (Text.occursIn key.toList s.toList)
  | node => .error (.failed .typeError
      s!"argument of type '{node.kind.operandName}' is not iterable")

def setEntry? (node : Node) (key : String) (child : Node) : Except Fault Node :=
  match node with
  | .table entries | .inline entries =>
    .ok (node.withEntries (OrderedMap.putEntry entries key child))
  | .array _ => .error node.notSubscriptable
  | node => .error (.failed .typeError
      s!"'{node.kind.operandName}' object does not support item assignment")

/-- The last part of a node that is no table: the last item of an array or the last character of a
text. -/
def last? (node : Node) : Except Fault Node :=
  match node with
  | .array items =>
    match items.getLast? with
    | some item => .ok item
    | none => .error (.outOfRange "list")
  | .text s =>
    match s.toList.getLast? with
    | some c => .ok (.text (String.singleton c))
    | none => .error (.outOfRange "string")
  | node => .error node.notSubscriptable

/-- An array with another last item; other nodes stay as they are. -/
def withLast (node item : Node) : Node :=
  match node with
  | .array items => .array (items.dropLast ++ [item])
  | node => node

def appendTable? (node : Node) : Except Fault Node :=
  match node with
  | .array items => .ok (.array (items ++ [.table []]))
  | node => .error (.noAttribute s!"'{node.kind.operandName}' object" "append")

end Node

inductive Step where
  | entry (key : String)
  | last

/-- Changes the node at the end of a way through nodes, which also yields something else. -/
def Node.changeAt? {α : Type} (change : Node → Except Refusal (Node × α)) :
    List Step → Node → Except Refusal (Node × α)
  | [], node => change node
  | .entry key :: way, node =>
    match node.entries? with
    | some entries =>
      match Table.get? entries key with
      | some child => do
        let (child, result) ← changeAt? change way child
        return (node.withEntries (OrderedMap.putEntry entries key child), result)
      | none => .error .malformed
    | none => .error .malformed
  | .last :: way, node =>
    match node.last? with
    | .ok child => do
      let (child, result) ← changeAt? change way child
      return (node.withLast child, result)
    | .error _ => .error .malformed

def orFail {α : Type} (result : Except Fault α) : Except Refusal α :=
  match result with
  | .ok value => .ok value
  | .error cause => .error (.failure cause)

end TypstMarkup.Toml
