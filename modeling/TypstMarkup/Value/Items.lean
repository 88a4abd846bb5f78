import TypstMarkup.Fault

/-!
Containers seen as sequences of their items: what iteration yields, how many items there are, and
whether a value counts as true. A dictionary yields its keys and a text its characters.
-/
namespace TypstMarkup.Value

def characters (text : String) : List Value :=
  text.toList.map fun c => .str (String.singleton c)

def items? (v : Value) : Except Fault (List Value) :=
  match v.core with
  | .list items | .tuple items | .set items => .ok items
  | .dict entries => .ok (entries.map Prod.fst)
  | .matrix rows => .ok (rows.map .tuple)
  | .range r => .ok (r.toList.map .int)
  | .str text | .markup text => .ok (characters text)
  | .char c => .ok [.str (String.singleton c)]
  | .bytes data => .ok (data.map fun byte => .int byte.toNat)
  | .builtin .mode => .ok (Mode.all.map .mode)
  | _ => .error (.notIterable v.kind)

def length? (v : Value) : Except Fault Nat :=
  match v.core with
  | .list items | .tuple items | .set items => .ok items.length
  | .dict entries => .ok entries.length
  | .matrix rows => .ok rows.length
  | .range r => if r.length < wordLimit then .ok r.length else .error .notANativeSize
  | .str text | .markup text => .ok text.length
  | .char _ => .ok 1
  | .bytes data => .ok data.length
  | .builtin .mode => .ok Mode.all.length
  | _ => .error (.failed .typeError s!"object of type '{v.kind.operandName}' has no len()")

/-- Whether a value counts as true: numbers other than zero, containers and texts that are not
empty, and everything without a notion of emptiness. -/
def isTrue (v : Value) : Bool :=
  match v.core with
  | .null => false
  | .bool b => b
  | .int n => n != 0
  | .float x => !x.isZero
  | .complex re im => !(re.isZero && im.isZero)
  | .decimal (.finite _ coefficient _) => coefficient != 0
  | .fraction q => q != 0
  | .flags f => f.number != 0
  | .str text | .markup text => !text.isEmpty
  | .bytes data => !data.isEmpty
  | .list items | .tuple items | .set items => !items.isEmpty
  | .dict entries => !entries.isEmpty
  | .matrix rows => !rows.isEmpty
  | .range r => r.length != 0
  | _ => true

/-- The number of items from which on a row does not fit in memory, the 34th power of two. -/
def rowLimit : Nat := 0x400000000

/-- The items of a row of a matrix. A row holds all its items at once, so a progression may be too
long for one. -/
def rowItems? (v : Value) : Except Fault (List Value) :=
  match v.core with
  | .range r =>
    if wordLimit ≤ r.length then .error .notANativeSize
    else if rowLimit ≤ r.length then .error .outOfMemory
    else v.items?
  | _ => v.items?

theorem items?_of_rowItems? {v : Value} {items : List Value} (found : v.rowItems? = .ok items) :
    v.items? = .ok items := by
  unfold rowItems? at found
  split at found
  · split at found
    · cases found
    · split at found
      · cases found
      · exact found
  · exact found

/-- The rows of a matrix given as a value that holds them. All rows must have one length. -/
def matrixRows? (v : Value) : Except Fault (List (List Value)) := do
  let rows ← (← v.items?).mapM rowItems?
  let lengths := rows.map List.length
  if lengths.all fun n => some n == lengths.head? then .ok rows
  else .error (.unequalRows (lengths.eraseDups.mergeSort (· ≤ ·)))

end TypstMarkup.Value
