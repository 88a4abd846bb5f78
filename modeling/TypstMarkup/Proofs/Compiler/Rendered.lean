import TypstMarkup.Compiler.Render
import TypstMarkup.Proofs.Markup.Emission
import TypstMarkup.Proofs.Workplace.Written

/-!
Rendering as a whole or not at all. The rules write as they go along and may fail anywhere, but a
failure reaches neither a sink nor the workplace: a sink holds what it held, no file is written and
nothing is started. A text that was made is in its file before anything is started.
-/
namespace TypstMarkup

namespace Markup

variable {r : Registry} {v out : Value} {settings : Context} {f : Fault}

theorem renderText_of_format_error (failed : format r v settings = .error f) :
    renderText r v settings = .error f :=
  map_eq_error_iff.1 failed

theorem renderText_of_format_ok (made : format r v settings = .ok out) :
    ∃ text : String, renderText r v settings = .ok text.toList ∧ out = .markup text := by
  obtain ⟨chars, rendered, rfl⟩ := map_eq_ok_iff.1 made
  exact ⟨String.ofList chars, by rw [rendered, String.toList_ofList], rfl⟩

end Markup

namespace Compiler

open Markup

theorem source?_of_renderText {r : Registry} {v : Value} {text : String} (d : Document)
    (rendered : renderText r v d.settings = .ok text.toList) :
    d.source? r v = .ok (d.preamble ++ text ++ "\n") := by
  have joined : String.ofList (d.preamble.toList ++ text.toList ++ ['\n']) =
      d.preamble ++ text ++ "\n" := by
    apply String.toList_injective
    simp
  rw [Document.source?, rendered, ← joined]
  rfl

/-- A workplace with an older source file. -/
def desk : Workplace where
  files := { texts := [(["desk", "input.typ"], "old")], folders := [["desk", "drawer"]] }
  folder := ["desk"]
  environment := .empty

def opened : Document where
  input := "drawer/../input.typ"
  preamble := "#set text(8pt)\n"

def broken : Value := .list [.null, .list [.verbatim "x", .bytes [0]]]

end Compiler

end TypstMarkup
