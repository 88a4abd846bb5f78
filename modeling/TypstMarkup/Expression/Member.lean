import TypstMarkup.Value.Items

/-!
Members of values: the parts of numbers, the fields of records, and what kinds and modules offer.
-/
namespace TypstMarkup.Value

def namedFlags? (member : String) : Option PatternFlags :=
  match member with
  | "IGNORECASE" | "I" => some { ignoreCase := true }
  | "MULTILINE" | "M" => some { multiLine := true }
  | "DOTALL" | "S" => some { dotAll := true }
  | "VERBOSE" | "X" => some { verbose := true }
  | "ASCII" | "A" => some { ascii := true }
  | "UNICODE" | "U" => some { unicode := true }
  | "NOFLAG" => some {}
  | _ => none

def patternFlagNumber : Pattern → Nat
  | .text _ f => ({ f with unicode := !f.ascii } : PatternFlags).number
  | .bytes _ f => f.number

def ratioMember? (numerator denominator : Int) (whole : Value) (member : String) :
    Option Value :=
  match member with
  | "numerator" => some (.int numerator)
  | "denominator" => some (.int denominator)
  | "real" => some whole
  | "imag" => some (.int 0)
  | _ => none

/-- A member of a value, if it has one of that name. -/
def memberOf? (v : Value) (member : String) : Option Value :=
  match v.core, member with
  | .float x, "real" => some (.float x)
  | .float _, "imag" => some (.float (.zero false))
  | .complex re _, "real" => some (.float re)
  | .complex _ im, "imag" => some (.float im)
  | .verbatim text, "text" => some (.str text)
  | .raw text _, "text" => some (.str text)
  | .raw _ language, "lang" => some (.str language)
  | .matrix rows, "shape" =>
    some (.tuple [.int rows.length, .int ((rows.head?.map List.length).getD 0)])
  | .range r, "start" => some (.int r.start)
  | .range r, "stop" => some (.int r.stop)
  | .range r, "step" => some (.int r.step)
  | .pattern (.text source _), "pattern" => some (.str source)
  | .pattern (.bytes source _), "pattern" => some (.bytes source)
  | .pattern p, "flags" => some (.int (patternFlagNumber p))
  | .mode m, "name" => some (.str m.memberName)
  | .mode m, "value" => some (.int m.number)
  | .mode m, "sigil" => some (.str m.sigil)
  | .mode _, name | .builtin .mode, name =>
    match Mode.all.find? fun m => m.memberName == name with
    | some m => some (.mode m)
    | none => if name == "parse" then some (.builtin .parseMode) else none
  | .builtin .patternModule, name =>
    match namedFlags? name with
    | some f => some (.flags f)
    | none => if name == "compile" then some (.builtin .compilePattern) else none
  | .flags f, "value" => some (.int f.number)
  | .fraction q, name => ratioMember? q.num q.den (.fraction q) name
  | v, name =>
    match v.int? with
    | some n => ratioMember? n 1 (.int n) name
    | none => none

def member? (v : Value) (member : String) : Except Fault Value :=
  match v.memberOf? member with
  | some found => .ok found
  | none =>
    match v.core with
    | .builtin .mode => .error (.failed .attributeError member)
    | .builtin .patternModule => .error (.noAttribute "module 're'" member)
    | .builtin b =>
      match b.built? with
      | some kind => .error (.noAttribute s!"type object '{kind.name}'" member)
      | none => .error (.noAttribute s!"'{v.kind.name}' object" member)
    | _ => .error (.noAttribute s!"'{v.kind.operandName}' object" member)

end TypstMarkup.Value
