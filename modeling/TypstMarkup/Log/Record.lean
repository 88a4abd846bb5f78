import TypstMarkup.Log.Level
import TypstMarkup.Terminal.Style
import TypstMarkup.Value.Interpolation

/-!
Records of the log. A record is laid out with its level, its place and its message, and coloured by
its level; colours are closed before the end of every line and opened again after it.
-/
namespace TypstMarkup.Log

structure Record where
  level : Level
  message : List Char
  file : String
  line : Nat
  function : String

/-! ### Messages -/

/-- The arguments of a message: a single mapping that is not empty serves to look up keys. -/
def messageArguments (arguments : List Value) : Value.Arguments :=
  match arguments with
  | [v] =>
    match v.core with
    | .dict (_ :: _) => .ofValue v
    | _ => ⟨arguments, none⟩
  | _ => ⟨arguments, none⟩

/-- The message of a record; without arguments it stays as it is. -/
def message? (template : List Char) (arguments : List Value) : Except Fault (List Char) :=
  if arguments.isEmpty then .ok template
  else Value.filled? template (messageArguments arguments)

/-! ### Layouts -/

def briefLayout : String := "[%(levelname)s] %(message)s"

def detailedLayout : String :=
  "[%(levelname)s] [%(filename)s:%(lineno)d] [%(funcName)s] %(message)s"

def layoutFor (level : Level) : String :=
  if Level.info ≤ level then briefLayout else detailedLayout

/-- The fields of a layout and what they stand for in a record. -/
def Record.fields (r : Record) : List (String × List Char) :=
  [("%(levelname)s", r.level.name.toList), ("%(message)s", r.message),
    ("%(filename)s", r.file.toList), ("%(lineno)d", (toString r.line).toList),
    ("%(funcName)s", r.function.toList), ("%(levelno)d", (toString r.level).toList),
    ("%(levelno)s", (toString r.level).toList)]

/-- A layout filled with fields; the first characters may belong to a field already filled. -/
def laidOutFrom (fields : List (String × List Char)) : Nat → List Char → List Char
  | _, [] => []
  | skip + 1, _ :: rest => laidOutFrom fields skip rest
  | 0, c :: rest =>
    match fields.find? fun field => field.1.toList.isPrefixOf (c :: rest) with
    | some field => field.2 ++ laidOutFrom fields (field.1.length - 1) rest
    | none => c :: laidOutFrom fields 0 rest

def Record.laidOut (r : Record) (layout : List Char) : List Char :=
  laidOutFrom r.fields 0 layout

/-! ### Colours -/

/-- A colour of records: codes that open and close it. -/
structure Paint where
  pairs : List (Nat × Nat)

def paintFor (level : Level) : Paint :=
  if Level.critical ≤ level then ⟨[(91, 39)]⟩
  else if Level.error ≤ level then ⟨[(31, 39)]⟩
  else if Level.warning ≤ level then ⟨[(33, 39)]⟩
  else if Level.info ≤ level then ⟨[(32, 39)]⟩
  else if Level.debug ≤ level then ⟨[(90, 39)]⟩
  else if Level.trace ≤ level then ⟨[(34, 39)]⟩
  else ⟨[(2, 22), (31, 39)]⟩

def Paint.opening (p : Paint) : List Char :=
  p.pairs.flatMap fun pair => Terminal.code pair.1

def Paint.closing (p : Paint) : List Char :=
  p.pairs.flatMap fun pair => Terminal.code pair.2

/-- Closes a paint before each line end and opens it again after it. -/
def Paint.acrossLines (p : Paint) : List Char → List Char
  | [] => []
  | '\r' :: '\n' :: rest => p.closing ++ '\r' :: '\n' :: (p.opening ++ p.acrossLines rest)
  | '\n' :: rest => p.closing ++ '\n' :: (p.opening ++ p.acrossLines rest)
  | c :: rest => c :: p.acrossLines rest

/-- Opens a code again after each code in a text that closes it; the first characters may belong to
a code already copied. -/
def reopened (pair : Nat × Nat) : Nat → List Char → List Char
  | _, [] => []
  | skip + 1, c :: rest =>
    if skip = 0 then c :: (Terminal.code pair.1 ++ reopened pair 0 rest)
    else c :: reopened pair skip rest
  | 0, c :: rest =>
    if (Terminal.code pair.2).isPrefixOf (c :: rest) then
      c :: reopened pair ((Terminal.code pair.2).length - 1) rest
    else c :: reopened pair 0 rest

def Paint.apply (p : Paint) (text : List Char) : List Char :=
  let text := p.pairs.reverse.foldl (fun text pair => reopened pair 0 text) text
  p.opening ++ p.acrossLines text ++ p.closing

def Record.written (r : Record) (layout : List Char) : List Char :=
  (paintFor r.level).apply (r.laidOut layout)

end TypstMarkup.Log
