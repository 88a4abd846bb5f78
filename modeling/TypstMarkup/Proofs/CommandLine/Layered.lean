import TypstMarkup.CommandLine.Format
import TypstMarkup.Proofs.Configuration.Layers
import TypstMarkup.Proofs.Expression.LiteralKind

/-!
The settings a literal is formatted under. They come in layers: the defaults, what the nearest
configuration files and the explicit ones contribute, the options, and the parameters in order. Each
setting has the value of the last layer that holds it.
-/
namespace TypstMarkup

namespace Markup

/-- The built-in registry has no default settings for literals. -/
theorem kindDefaults_of_literalKinds {v : Value} (kind : v.kind ∈ Expression.literalKinds) :
    Registry.builtin.kindDefaults v = .empty := by
  have none : ∀ kind ∈ Expression.literalKinds,
      (Registry.builtin.defaults.firstOn (Registry.builtin.searchPath kind)).isNone = true := by
    decide
  rw [Registry.kindDefaults, Option.isNone_iff_eq_none.1 (none v.kind kind)]

end Markup

open TypstMarkup.Configuration

namespace CommandLine

/-- The layers a request puts on top of the configuration: one for each option that is given, and
one for each parameter in order. -/
def FormatRequest.layers (q : FormatRequest) : List Context :=
  (q.settings ++ q.parameters.map fun p => (p.1, Value.str p.2)).map fun entry =>
    OrderedMap.ofList [entry]

theorem layered_eq (q : FormatRequest) (c : Configuration) :
    q.layered c = q.layers.foldl .update c.settings := by
  rw [FormatRequest.layers, ← OrderedMap.insertAll_eq_foldl_update, OrderedMap.insertAll,
    List.foldl_append]
  rfl

theorem attempt_eq_ok_iff {α : Type} {x : Except Fault α} {a : α} :
    attempt x = .ok a ↔ x = .ok a := by
  cases x with
  | ok b => exact ⟨fun same => by cases same; rfl, fun same => by cases same; rfl⟩
  | error f => exact ⟨nofun, nofun⟩

theorem literal?_of_literalValue {what text : String} {v : Value}
    (read : literalValue what text = .ok v) : Expression.literal? text.toList = .ok v := by
  unfold literalValue at read
  split at read
  · rename_i found
    cases read
    exact found
  · split at read <;> cases read

theorem get?_effectiveContext {q : FormatRequest} {v : Value} {parts : List Draft}
    (kind : v.kind ∈ Expression.literalKinds) (key : String) :
    (Markup.effectiveContext .builtin v
        (q.layered (parts.foldl Draft.merge Draft.defaults).freeze)).get? key =
      lastOf (fun layer => layer.get? key) ((Draft.defaults :: parts).map Draft.settings ++
        q.layers) := by
  have merged : (parts.foldl Draft.merge Draft.defaults).freeze.settings =
      (parts.map Draft.settings).foldl .update Context.default :=
    Draft.settings_foldl_merge Draft.defaults parts
  have stacked : q.layered (parts.foldl Draft.merge Draft.defaults).freeze =
      (parts.map Draft.settings ++ q.layers).foldl .update Context.default := by
    rw [layered_eq, merged, List.foldl_append]
  have empty : Context.default.update .empty = Context.default := rfl
  rw [Markup.effectiveContext, Markup.kindDefaults_of_literalKinds kind, empty,
    OrderedMap.get?_update, stacked, OrderedMap.get?_foldl_update, lastOf_cons_or]
  rfl

/-- The layers behind the report on a literal `v` under a configuration `c`: the built-in defaults,
what the configuration files `found` in the nearest folder and those named explicitly contribute,
and what the request itself sets. -/
structure Layering (s : State) (q : FormatRequest) (report : Report) (v : Value)
    (c : Configuration) (found : List Path) (parts : List (Option Draft)) : Prop where
  literal : Expression.literal? q.value.toList = .ok v
  configured : s.configuration? = .ok c
  nearest : if s.discovered then
      Nearest s.workplace (startFolder s.workplace (.ofText ".")) found
    else found = []
  contribute : List.Forall₂ (Contributes s.workplace) (found ++ s.explicit) parts
  /-- The last layer that holds a setting gives its value. -/
  settings (key : String) :
    (Markup.effectiveContext .builtin v (q.layered c)).get? key =
      lastOf (fun layer => layer.get? key)
        ((Draft.defaults :: parts.reduceOption).map Draft.settings ++ q.layers)
  fontFolders : some c.fontFolders =
    lastOf Draft.fontFolders (Draft.defaults :: parts.reduceOption)
  executable : c.executable = lastOf Draft.executable (Draft.defaults :: parts.reduceOption)
  sources : c.sources = (Draft.defaults :: parts.reduceOption).flatMap Draft.sources
  output : ∃ text, Markup.renderText .builtin v (q.layered c) = .ok text ∧
    report.output = s.console.written text q.endsLine

/-- A folder with both kinds of configuration files and one more file. -/
def project : Workplace where
  files := { texts := [
    (["home", "pyproject.toml"], "[tool.typstry.settings]\ngap = \"1em\"\nmode = \"code\"\n"),
    (["home", "typstry.toml"], "[settings]\ngap = \"2em\"\n"),
    (["home", "more.toml"], "[compiler]\nfont_paths = [\"fonts\"]\n")] }
  folder := ["home"]
  environment := .empty

end CommandLine

end TypstMarkup
