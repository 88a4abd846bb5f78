import TypstMarkup.Template.Render
import TypstMarkup.Proofs.Expression.Called
import TypstMarkup.Proofs.OrderedMap
import TypstMarkup.Proofs.Template.Constructor
import TypstMarkup.Proofs.Markup.TopLevel

/-!
A template of one splice that formats a value under settings, both given by name. What it renders is
what every other way of formatting the value under these settings gives, text or failure.
-/
namespace TypstMarkup

namespace Template

open Expression

/-! ### Evaluation -/

section

variable {s : Surroundings}

/-- Settings as a value. -/
def asMapping (c : Context) : Value :=
  .dict (c.entries.map fun entry => (.str entry.1, entry.2))

theorem keywordEntries_asMapping (callee : Value) (c : Context) :
    keywordEntries callee (asMapping c) = .ok c.entries := by
  simp only [keywordEntries, asMapping, Value.core]
  induction c.entries with
  | nil => rfl
  | cons entry rest ih =>
    rw [List.map_cons, List.mapM_cons, ih]
    rfl

theorem addKeywords_nil (callee : Value) (entries : List (String × Value)) :
    addKeywords callee [] entries = .ok entries := by
  have new : (entries.find? fun e => ([] : List (String × Value)).any fun k => k.1 == e.1) =
      none := by simp
  rw [addKeywords, new, List.nil_append]

/-- A call of a name with one value and the entries of a mapping, all found by name. -/
theorem run_call_spread {f x m : String} {callee v : Value} {c : Context} (noLoops : s.loops = [])
    (isCallee : valueOf? s.names f = some callee) (isValue : valueOf? s.names x = some v)
    (isMapping : valueOf? s.names m = some (asMapping c)) (line line' line'' line₃ line₄ : Nat) :
    (evaluate (.call (.name f line) [.name x line'] [.mk none (.name m line'') line₃] line₄)).run
      s = (applyTo s.registry callee ⟨[v], c.entries⟩).map (·, s) := by
  have keywords : (evaluateKeywords callee [] [.mk none (.name m line'') line₃]).run s =
      .ok (c.entries, s) := by
    rw [evaluateKeywords, run_bind (run_name line'' noLoops isMapping),
      keywordEntries_asMapping, run_bind (a := c.entries) (t := s) rfl, addKeywords_nil]
    rfl
  exact run_call noLoops isCallee rfl (run_name line' noLoops isValue) keywords line line₄

end

/-! ### The template -/

/-- A splice of a value called `x` under settings called `s`. -/
def spread : List Char := "\\(x, **s)".toList

def IsSpread (e : Expr) : Prop :=
  ∃ line line' line'' line₃ line₄, e =
    .call (.name constructorName line) [.name "x" line'] [.mk none (.name "s" line'') line₃] line₄

def isSpread : Expr → Bool
  | .call (.name f _) [.name x _] [.mk none (.name m _) _] _ =>
    f == constructorName && x == "x" && m == "s"
  | _ => false

theorem isSpread_sound {e : Expr} (holds : isSpread e = true) : IsSpread e := by
  unfold isSpread at holds
  split at holds
  · rename_i f line x line' m line'' line₃ line₄
    simp only [Bool.and_eq_true, beq_iff_eq] at holds
    obtain ⟨⟨rfl, rfl⟩, rfl⟩ := holds
    exact ⟨line, line', line'', line₃, line₄, rfl⟩
  · cases holds

theorem exists_template : ∃ s, ofSource? spread = .ok ⟨spread, [.splice s]⟩ ∧
    s.contents = "x, **s".toList ∧ IsSpread s.call := by
  obtain ⟨s, scanned, same⟩ := exists_splice_of_scansTo spread "x, **s".toList (by decide +kernel)
  obtain ⟨-, read⟩ := read_of_divided (scan_eq_ok_iff.1 scanned)
    (show s ∈ splices [.splice s] from List.mem_cons_self)
  obtain ⟨-, parsed, -⟩ := ofContents_eq_ok_iff.1 read
  have called : (parse? (spliceSource "x, **s".toList)).any isSpread = true := by decide +kernel
  rw [← same, parsed] at called
  refine ⟨s, ?_, same, isSpread_sound called⟩
  rw [ofSource?, scanned]

section

variable {r : Markup.Registry} {names : OrderedMap Value} {v : Value} {settings : Context}

theorem renderSegment_spread {s : Splice} (spread : IsSpread s.call)
    (value : names.get? "x" = some v) (mapping : names.get? "s" = some (asMapping settings)) :
    let around : Surroundings :=
      { names := (names.insert constructorName (.builtin .markup)).entries, registry := r }
    (renderSegment (.splice s)).run around = do
      let out ← Markup.construct r v settings
      let text ← out.plainText?
      return (text.toList, around) := by
  intro around
  obtain ⟨line, line', line'', line₃, line₄, called⟩ := spread
  have run := run_call_spread (s := around) rfl
    (OrderedMap.get?_insert_self names constructorName (.builtin .markup))
    ((OrderedMap.get?_insert_of_ne names _ (by decide)).trans value)
    ((OrderedMap.get?_insert_of_ne names _ (by decide)).trans mapping)
    line line' line'' line₃ line₄
  have applied : applyTo r (.builtin .markup) ⟨[v], settings.entries⟩ =
      Markup.construct r v (OrderedMap.ofList settings.entries) := rfl
  rw [renderSegment, called, StateT.run_bind, run, applied, OrderedMap.ofList_entries]
  cases Markup.construct r v settings with
  | error f => rfl
  | ok out =>
    change ((liftM out.plainText? : Evaluating String) >>= fun text => pure text.toList).run
      around = out.plainText? >>= fun text => pure (text.toList, around)
    cases out.plainText? <;> rfl

/-- The template renders what the constructor gives. -/
theorem render_spread {s : Splice} (spread : IsSpread s.call) (source : List Char)
    (value : names.get? "x" = some v) (mapping : names.get? "s" = some (asMapping settings)) :
    render ⟨source, [.splice s]⟩ names r = do
      let out ← Markup.construct r v settings
      let text ← out.plainText?
      return .markup text := by
  have segment := renderSegment_spread (r := r) spread value mapping
  rw [render, List.mapM_cons, List.mapM_nil]
  simp only [StateT.run_bind, segment]
  cases Markup.construct r v settings with
  | error f => rfl
  | ok out =>
    cases plain : out.plainText? with
    | error f => simp only [bind, Except.bind, plain]
    | ok text =>
      simp only [bind, Except.bind, plain]
      change Except.ok (Value.markup (String.ofList (text.toList ++ []))) = _
      rw [List.append_nil, String.ofList_toList]
      rfl

/-- All ways of formatting a value under settings give the same text or fail in the same way, as
long as text and finished source keep their built-in rules. -/
theorem formatting_agrees (keeps : r.KeepsSource) (derives : Markup.Derives r v)
    (value : names.get? "x" = some v) (mapping : names.get? "s" = some (asMapping settings))
    (held : List Char) :
    ∃ outcome : Except Fault String,
      Markup.format r v settings = outcome.map .markup ∧
      Markup.construct r v settings = outcome.map .markup ∧
      Markup.writeTo r held v settings = (match outcome with
        | .ok text => ⟨held ++ text.toList, none⟩
        | .error f => ⟨held, some f⟩) ∧
      ∃ s, ofSource? spread = .ok ⟨spread, [.splice s]⟩ ∧ s.contents = "x, **s".toList ∧
        render ⟨spread, [.splice s]⟩ names r = outcome.map .markup := by
  obtain ⟨s, made, contents, called⟩ := exists_template
  have constructed := Markup.construct_eq_format keeps derives settings
  have rendered := render_spread (r := r) called Template.spread value mapping
  rw [constructed, Markup.format] at rendered
  cases outcome : Markup.renderText r v settings with
  | ok text =>
    have formatted : Markup.format r v settings = .ok (.markup (String.ofList text)) := by
      rw [Markup.format, outcome]
      rfl
    refine ⟨.ok (String.ofList text), formatted, constructed.trans formatted, ?_, s, made,
      contents, ?_⟩
    · rw [Markup.writeTo, outcome]
      simp only [String.toList_ofList]
    · rw [rendered, outcome]
      rfl
  | error f =>
    have formatted : Markup.format r v settings = .error f := by
      rw [Markup.format, outcome]
      rfl
    refine ⟨.error f, formatted, constructed.trans formatted, ?_, s, made, contents, ?_⟩
    · rw [Markup.writeTo, outcome]
    · rw [rendered, outcome]
      rfl

end

def remarkKind : Kind := .declared "notes" "Remark"

/-- A registry with a rule and defaults of its own for text, from which remarks derive by way of
finished source. -/
def remarking : Markup.Registry :=
  { (Markup.Registry.builtin.addRule .str (.composed "show_prose"
      [.text "[", .setting "tone", .plain, .text "]"])).addDefaults
        .str (OrderedMap.ofList [("tone", .str "plain: ")]) with
    lineages := [(remarkKind, [remarkKind, .markup, .str, .object])] }

theorem mem_lineage_remarking {base kind : Kind} (member : base ∈ remarking.lineage kind) :
    kind = remarkKind ∨ base ∈ kind.lineage := by
  by_cases isRemark : kind = remarkKind
  · exact .inl isRemark
  · have undeclared : remarking.lineages.get? kind = none := by
      simp [remarking, Markup.Table.get?, Ne.symm isRemark]
    rw [Markup.Registry.lineage, undeclared, Option.getD_none] at member
    exact .inr member

theorem keepsSource_remarking : remarking.KeepsSource where
  verbatim kind member := by
    rcases mem_lineage_remarking member with rfl | native
    · exact absurd member (by decide +kernel)
    · cases kind <;> simp [Kind.lineage] at native
      rfl
  markup kind member := by
    rcases mem_lineage_remarking member with rfl | native
    · rfl
    · cases kind <;> simp [Kind.lineage] at native
      rfl

def remark : Value := .object remarkKind (some (.markup "*so*")) none

def loud : Context := OrderedMap.ofList [("tone", .int 3), ("mode", .str "loud")]

theorem formatting_agrees_remark :
    remarking.KeepsSource ∧ Markup.Derives remarking remark ∧
      (OrderedMap.ofList [("x", remark), ("s", asMapping loud)]).get? "x" = some remark ∧
      (OrderedMap.ofList [("x", remark), ("s", asMapping loud)]).get? "s" =
        some (asMapping loud) ∧
      ∃ outcome : Except Fault String,
        Markup.format remarking remark loud = outcome.map .markup ∧
        Markup.construct remarking remark loud = outcome.map .markup ∧
        Markup.writeTo remarking ['>'] remark loud = (match outcome with
          | .ok text => ⟨['>'] ++ text.toList, none⟩
          | .error f => ⟨['>'], some f⟩) ∧
        ∃ s, ofSource? spread = .ok ⟨spread, [.splice s]⟩ ∧ s.contents = "x, **s".toList ∧
          render ⟨spread, [.splice s]⟩
              (OrderedMap.ofList [("x", remark), ("s", asMapping loud)]) remarking =
            outcome.map .markup := by
  have derives : Markup.Derives remarking remark := by
    intro kind _ same
    have isMarkup : Kind.markup = kind := same
    subst isMarkup
    decide +kernel
  exact ⟨keepsSource_remarking, derives, rfl, rfl,
    formatting_agrees keepsSource_remarking derives rfl rfl ['>']⟩

end Template

end TypstMarkup
