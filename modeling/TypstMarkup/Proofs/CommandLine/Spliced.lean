import TypstMarkup.Proofs.CommandLine.Orderly
import TypstMarkup.Proofs.Markup.Reads
import TypstMarkup.Proofs.Template.Reserved

/-!
A literal and the splice of a variable that stands for it. The settings of the command line and of
the configuration are for literals only: a splice has settings of its own, and without any it is
formatted under the defaults. So the two texts are the same wherever the settings do not matter.
-/
namespace TypstMarkup

namespace Markup

section

variable {r : Registry} {v : Value}

theorem construct_of_literalKinds (isOf : Expression.IsOf Expression.literalKinds v)
    (settings : Context) : construct r v settings = format r v settings := by
  obtain ⟨kind, own⟩ := isOf
  -- A literal is no text that the constructor takes as it is.
  unfold construct
  split
  · rename_i same
    rw [← own, same] at kind
    exact absurd kind (by decide : Kind.verbatim ∉ Expression.literalKinds)
  · rename_i same
    rw [← own, same] at kind
    exact absurd kind (by decide : Kind.markup ∉ Expression.literalKinds)
  · rfl

theorem renderText_empty (kind : v.kind ∈ Expression.literalKinds) :
    renderText .builtin v .empty = (write .builtin v Context.default).toExcept := by
  rw [renderText, effectiveContext, kindDefaults_of_literalKinds kind]
  rfl

end

end Markup

namespace Template

/-- A source is the splice of a name, without settings and without any other text. -/
def SplicesName (source : List Char) (id : String) : Prop :=
  ∃ s line inner place, scan source = .ok [.splice s] ∧
    s.call = .call (.name constructorName line) [.name id inner] [] place

/-- Whether a source is the splice of a name. -/
def isSpliceOf (source : List Char) (id : String) : Bool :=
  match scan source with
  | .ok [.splice s] =>
    match s.call with
    | .call (.name f _) [.name x _] [] _ => f == constructorName && x == id
    | _ => false
  | _ => false

theorem splicesName_of_isSpliceOf {source : List Char} {id : String}
    (holds : isSpliceOf source id = true) : SplicesName source id := by
  unfold isSpliceOf at holds
  split at holds
  · rename_i s scanned
    split at holds
    · rename_i f line x inner place called
      obtain ⟨rfl, rfl⟩ : f = constructorName ∧ x = id := by simpa using holds
      exact ⟨s, line, inner, place, scanned, called⟩
    · cases holds
  · cases holds

theorem render_name {source : List Char} {id : String} (splices : SplicesName source id)
    {names : OrderedMap Value} {v : Value} (own : id ≠ constructorName)
    (found : names.get? id = some v) (isOf : Expression.IsOf Expression.literalKinds v) :
    ∃ t, ofSource? source = .ok t ∧ t.render names =
      (Markup.renderText .builtin v .empty).map fun text => .markup (String.ofList text) := by
  obtain ⟨s, line, inner, place, scanned, called⟩ := splices
  refine ⟨⟨source, [.splice s]⟩, ofSource?_eq_ok_iff.2 ⟨_, scanned, rfl⟩, ?_⟩
  have value : Expression.valueOf? (initialNames names) id = some v :=
    (valueOf?_initialNames_of_ne own).trans found
  have run := run_renderSegment_of_callee (r := .builtin) called rfl (valueOf?_initialNames names)
    (Expression.run_name inner rfl value) rfl
  have constructed : Expression.applyTo .builtin (.builtin .markup) ⟨[v], []⟩ =
      Markup.format .builtin v .empty :=
    Markup.construct_of_literalKinds isOf .empty
  rw [constructed, Markup.format] at run
  cases rendered : Markup.renderText .builtin v .empty with
  | ok text =>
    rw [rendered] at run
    have contributed : (renderSegment (.splice s)).run { names := initialNames names } =
        .ok (text, { names := initialNames names }) := by
      rw [run]
      change Except.ok ((String.ofList text).toList, _) = _
      rw [String.toList_ofList]
    refine render_eq_ok_iff.2 ⟨text ++ [], _, .splice contributed (.done _), ?_⟩
    rw [List.append_nil]
  | error f =>
    rw [rendered] at run
    exact render_eq_error_iff.2 ⟨[], s, [], [], _, rfl, .done _, run⟩

end Template

namespace CommandLine

/-- A request for a template that is the splice of a variable, which stands for the literal of
another request; whatever else the two ask for. -/
structure FormatRequest.Splices (p q : FormatRequest) (id : String) : Prop where
  template : p.isTemplate = true
  source : Template.SplicesName p.value.toList id
  own : id ≠ Template.constructorName
  binding : p.bindings = [(id, q.value)]

section

variable {s : State} {p q : FormatRequest} {id : String} {v : Value}

theorem get?_withStandardNames (id : String) (v : Value) :
    (Template.withStandardNames (OrderedMap.ofList [(id, v)])).get? id = some v := by
  have given : (OrderedMap.ofList [(id, v)]).get? id = some v :=
    OrderedMap.get?_insert_self .empty id v
  rw [Template.withStandardNames, OrderedMap.get?_update, given]
  rfl

theorem free_of_formattedText {text : List Char} (literal : q.isTemplate = false)
    (formatted : formattedText s q = .ok text) : q.bindings = [] := by
  unfold formattedText at formatted
  split at formatted
  · cases formatted
  · rename_i used
    simpa [literal] using used

/-- The splice gives the text of the literal under the defaults, and fails if that cannot be
written. -/
theorem formattedText_eq_ok_iff_of_splices (splices : p.Splices q id)
    (read : Expression.literal? q.value.toList = .ok v) {text : List Char} :
    formattedText s p = .ok text ↔
      (Markup.write .builtin v Context.default).toExcept = .ok text := by
  have isOf := Expression.isOf_of_literal? read
  obtain ⟨t, made, rendered⟩ :=
    Template.render_name splices.source splices.own (get?_withStandardNames id v) isOf
  have bound : p.bound? = .ok [(id, v)] := by
    rw [FormatRequest.bound?, splices.binding, List.mapM_cons, read]
    rfl
  rw [formattedText_of_template splices.template, templateText,
    bind_of_eq_ok ((variables_eq_ok_iff fun _ => rfl).2 bound),
    bind_of_eq_ok (attempt_eq_ok_iff.2 made), rendered, Markup.renderText_empty isOf.1]
  cases (Markup.write .builtin v Context.default).toExcept with
  | ok given =>
    change (Except.ok (String.ofList given).toList : Step (List Char)) = .ok text ↔ _
    rw [String.toList_ofList, Except.ok.injEq, Except.ok.injEq]
  | error f =>
    refine iff_of_false (fun same => ?_) nofun
    dsimp only [Except.map] at same
    split at same <;> cases same

/-- The template prints the text that the literal has under the defaults, whatever the options and
the configuration are. It prints what is printed for the literal itself wherever these two texts
are the same: if the settings in effect agree with the defaults on all that is documented for the
kinds in the literal, and always for integers and floating-point numbers. -/
theorem splice_has_text_under_defaults {text : List Char} (literal : q.isTemplate = false)
    (formatted : formattedText s q = .ok text) (splices : p.Splices q id) :
    ∃ v c, Expression.literal? q.value.toList = .ok v ∧ s.configuration? = .ok c ∧
      Markup.renderText .builtin v (q.layered c) = .ok text ∧
      (∀ s' text', formattedText s' p = .ok text' ↔
        (Markup.write .builtin v Context.default).toExcept = .ok text') ∧
      (Markup.AgreeFor .builtin v (Markup.effectiveContext .builtin v (q.layered c))
          Context.default → ∀ s', formattedText s' p = .ok text) ∧
      (v.kind = .int ∨ v.kind = .float → ∀ s', formattedText s' p = .ok text) := by
  rw [formattedText_of_literal literal (free_of_formattedText literal formatted)] at formatted
  obtain ⟨c, configured, formatted⟩ := bind_eq_ok_iff.1 formatted
  obtain ⟨v, read, rendered⟩ := bind_eq_ok_iff.1 formatted
  have read := literalValue_eq_ok_iff.1 read
  have rendered := attempt_eq_ok_iff.1 rendered
  have same : Markup.AgreeFor .builtin v (Markup.effectiveContext .builtin v (q.layered c))
      Context.default → ∀ s', formattedText s' p = .ok text := by
    intro agree s'
    rw [formattedText_eq_ok_iff_of_splices splices read, ← rendered]
    exact (Markup.renderText_congr Markup.isBuiltin_builtin agree).symm
  refine ⟨v, c, read, configured, rendered, fun s' text' => ?_, same, fun number => ?_⟩
  · exact formattedText_eq_ok_iff_of_splices splices read
  · exact same (Markup.agreeFor_of_number number _ _)

end

/-- The options and the mode do not matter to an integer. -/
theorem splice_has_text_under_defaults_integer :
    let q : FormatRequest := { value := "-7", mode := some .code, parameters := [("gap", "1em")] }
    let p : FormatRequest :=
      { value := "\\(x)", isTemplate := true, bindings := [("x", "-7")], mode := some .math }
    ∃ text, formattedText bareState q = .ok text ∧ p.Splices q "x" ∧
      formattedText bareState p = .ok text := by
  intro q p
  obtain ⟨text, formatted⟩ := exists_eq_ok (x := formattedText bareState q) (by decide +kernel)
  have source : Template.SplicesName "\\(x)".toList "x" :=
    Template.splicesName_of_isSpliceOf (by decide +kernel)
  have splices : p.Splices q "x" := ⟨rfl, source, by decide, rfl⟩
  obtain ⟨v, c, read, -, -, -, -, same⟩ := splice_has_text_under_defaults rfl formatted splices
  obtain ⟨w, found, integer⟩ := exists_of_any (x := Expression.literal? q.value.toList)
    (p := fun w => w.kind = .int) (by decide +kernel)
  rw [read] at found
  cases found
  exact ⟨text, formatted, splices, same (.inl (of_decide_eq_true integer)) bareState⟩

/-- The mode of the command line is for literals only. -/
theorem mode_does_not_reach_splices :
    ¬ ∀ s q text, q.isTemplate = false → formattedText s q = .ok text →
      formattedText s
        { q with value := "\\(x)", isTemplate := true, bindings := [("x", q.value)] } =
          .ok text := by
  intro agree
  let q : FormatRequest := { value := "True", mode := some .code }
  obtain ⟨text, formatted, different⟩ := exists_of_any (x := formattedText bareState q)
    (p := fun text => (formattedText bareState
      { q with value := "\\(x)", isTemplate := true, bindings := [("x", q.value)] }).toOption ≠
        some text)
    (by decide +kernel)
  exact of_decide_eq_true different (by rw [agree bareState q text rfl formatted]; rfl)

end CommandLine

end TypstMarkup
