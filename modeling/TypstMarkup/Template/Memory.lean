import TypstMarkup.Template.Render

/-!
Templates by their source, with a memory of the sources that have been divided. A source that is
remembered is not divided again. The memory is limited: the source that was not asked for for the
longest time makes room for a new one. Sources that cannot be divided are not remembered.
-/
namespace TypstMarkup.Template

/-- Sources with what they are divided into, the one asked for last at the front. -/
abbrev Memory := List (List Char × List Segment)

/-- The greatest number of sources that are remembered. -/
def memoryLimit : Nat := 512

/-- The segments of a source, and what is remembered then. -/
def Memory.divide (m : Memory) (source : List Char) :
    Except ScanFault (List Segment) × Memory :=
  match m.find? fun entry => entry.1 == source with
  | some entry => (.ok entry.2, entry :: m.filter fun other => other.1 != source)
  | none =>
    match scan source with
    | .ok segments => (.ok segments, ((source, segments) :: m).take memoryLimit)
    | .error f => (.error f, m)

/-- A template to be made and rendered: its source and the values of names. -/
structure Request where
  source : List Char
  names : OrderedMap Value

/-- What a request gives, and what is remembered then. -/
def Memory.answer (r : Markup.Registry) (m : Memory) (q : Request) : Except Fault Value × Memory :=
  match m.divide q.source with
  | (.ok segments, m) => (render ⟨q.source, segments⟩ q.names r, m)
  | (.error f, m) => (.error (f.toFault q.source), m)

def Memory.answers (r : Markup.Registry) : Memory → List Request → List (Except Fault Value)
  | _, [] => []
  | m, q :: rest =>
    let (given, m) := m.answer r q
    given :: Memory.answers r m rest

end TypstMarkup.Template
