import TypstMarkup.Expression.Calling

/-!
Declared kinds and their objects. A kind derives from others; its lineage keeps the order of every
lineage it joins, and is refused if there is no such order. An object of a kind that derives from a
built-in one carries a value of that one.
-/
namespace TypstMarkup

namespace Kind

/-- The built-in kinds that no kind derives from. -/
def isFinal : Kind → Bool
  | .bool | .null | .range | .pattern | .flags | .mode => true
  | _ => false

/-- Whether values of a kind have a form of their own, which no second such kind can share. -/
def isSolid : Kind → Bool
  | .int | .float | .complex | .decimal | .fraction | .str | .verbatim | .raw | .bytes | .list
  | .tuple | .dict | .set | .matrix => true
  | _ => false

/-- The first head among sequences that none of them holds later. -/
def nextInLine (sequences : List (List Kind)) : Option Kind :=
  (sequences.filterMap List.head?).find? fun kind =>
    sequences.all fun s => !(s.drop 1).contains kind

/-- Joins sequences into one that keeps the order of each. -/
def join? : Nat → List (List Kind) → Option (List Kind)
  | 0, _ => none
  | fuel + 1, sequences =>
    let open_ := sequences.filter (!List.isEmpty ·)
    if open_.isEmpty then some []
    else do
      let kind ← nextInLine open_
      let rest ← join? fuel (open_.map fun s => if s.head? = some kind then s.drop 1 else s)
      return kind :: rest

end Kind

namespace Markup.Registry

def repeatedBase? : List Kind → Option Kind
  | [] => none
  | kind :: rest => if rest.contains kind then some kind else repeatedBase? rest

def solidBase? (r : Registry) (kind : Kind) : Option Kind :=
  (r.lineage kind).find? Kind.isSolid

def baseFault? (r : Registry) (bases : List Kind) : Option Fault :=
  match bases.find? Kind.isFinal with
  | some base =>
    some (.failed .typeError s!"type '{base.operandName}' is not an acceptable base type")
  | none =>
    if 1 < (bases.filterMap r.solidBase?).eraseDups.length then
      some (.failed .typeError "multiple bases have instance lay-out conflict")
    else
      (repeatedBase? bases).map fun base =>
        .failed .typeError s!"duplicate base class {base.name}"

/-- Declares a kind that derives from others, or else from `object`. -/
def declare (r : Registry) (kind : Kind) (bases : List Kind) : Except Fault Registry :=
  let bases := if bases.isEmpty then [.object] else bases
  match r.baseFault? bases with
  | some f => .error f
  | none =>
    let lines := bases.map r.lineage ++ [bases]
    match Kind.join? (lines.flatten.length + 1) lines with
    | some rest => .ok { r with lineages := r.lineages.register kind (kind :: rest) }
    | none =>
      .error (.failed .typeError (
        "Cannot create a consistent method resolution\norder (MRO) for bases "
        ++ ", ".intercalate (bases.map Kind.name)))

def builder? : Kind → Option Builtin
  | .int => some .int
  | .float => some .float
  | .complex => some .complex
  | .decimal => some .decimal
  | .fraction => some .fraction
  | .char => some .char
  | .str => some .str
  | .verbatim => some .verbatim
  | .markup => some .markup
  | .raw => some .raw
  | .bytes => some .bytes
  | .list => some .list
  | .tuple => some .tuple
  | .dict => some .dict
  | .set => some .set
  | .matrix => some .matrix
  | _ => none

/-- An object of a declared kind, made from at most one argument, with a payload. -/
def instantiate (r : Registry) (kind : Kind) (argument payload : Option Value) :
    Except Fault Value :=
  match (r.lineage kind).findSome? builder? with
  | some b => do
    let core ← Expression.applyTo r (.builtin b) ⟨argument.toList, []⟩
    return .object kind (some core) payload
  | none =>
    match argument with
    | some _ => .error (.failed .typeError s!"{kind.name}() takes no arguments")
    | none => .ok (.object kind none payload)

end Markup.Registry

end TypstMarkup
