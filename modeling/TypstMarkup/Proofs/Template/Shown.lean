import TypstMarkup.Proofs.Template.Accepted
import TypstMarkup.Proofs.Template.Reserved

/-!
The shown form of finished source as the contents of a splice. Whatever the source holds, its shown
form is two calls around one quoted text, and they evaluate to the source again.
-/
namespace TypstMarkup.Template

open Expression

/-! ### Lexemes -/

theorem toList_shown_markup (s : String) :
    (Value.shown (.markup s)).toList =
      "TypstString".toList ++ '(' :: ("TypstText".toList ++ '(' ::
        (Text.quoted s.toList ++ [')', ')'])) := by
  have text : (Text.quotedString s).toList = Text.quoted s.toList := String.toList_ofList
  change ("TypstString(TypstText(" ++ Text.quotedString s ++ "))").toList = _
  rw [String.toList_append, String.toList_append, text, List.append_assoc]
  rfl

/-- Finished source is shown on one line. -/
theorem inLine_of_mem_shown (s : String) : ∀ c ∈ (Value.shown (.markup s)).toList, InLine c := by
  rw [toList_shown_markup]
  simp only [List.forall_mem_append, List.forall_mem_cons]
  exact ⟨inLine_of_all (by decide), by decide, inLine_of_all (by decide), by decide,
    inLine_of_mem_quoted s.toList, by decide, by decide, List.forall_mem_nil _⟩

/-- The lexemes of shown source in a splice. -/
def shownLexemes (text : List Char) : List Lexeme :=
  [⟨.name constructorName, 1⟩, ⟨.symbol "(", 1⟩, ⟨.name "TypstString", 1⟩, ⟨.symbol "(", 1⟩,
    ⟨.name "TypstText", 1⟩, ⟨.symbol "(", 1⟩, ⟨.text text, 1⟩, ⟨.symbol ")", 1⟩, ⟨.symbol ")", 1⟩,
    ⟨.symbol ")", 1⟩]

theorem lexFrom_closing (fuel : Nat) :
    lexFrom (fuel + 4) { brackets := [")", ")", ")"], atStart := false } [')', ')', ')'] =
      some [⟨.symbol ")", 1⟩, ⟨.symbol ")", 1⟩, ⟨.symbol ")", 1⟩] :=
  rfl

theorem spliceSource_shown (s : String) :
    spliceSource (Value.shown (.markup s)).toList =
      constructorName.toList ++ '(' :: ("TypstString".toList ++ '(' :: ("TypstText".toList ++ '(' ::
        (Text.quoted s.toList ++ [')', ')', ')']))) := by
  rw [spliceSource, toList_shown_markup]
  simp only [List.append_assoc, List.cons_append, List.nil_append]

theorem lex?_shown (s : String) :
    lex? (spliceSource (Value.shown (.markup s)).toList) = some (shownLexemes s.toList) := by
  have markup : IsCallee "TypstString".toList :=
    ⟨'T', _, rfl, by decide, by decide, by decide, by decide⟩
  have verbatim : IsCallee "TypstText".toList :=
    ⟨'T', _, rfl, by decide, by decide, by decide, by decide⟩
  have inLine : ∀ c ∈ spliceSource (Value.shown (.markup s)).toList, InLine c := by
    simp only [spliceSource, List.forall_mem_append, List.forall_mem_cons]
    exact ⟨⟨inLine_of_all (by decide), by decide, inLine_of_mem_shown s⟩, by decide,
      List.forall_mem_nil _⟩
  have noNull : '\x00' ∉ spliceSource (Value.shown (.markup s)).toList :=
    fun member => (inLine _ member).2.2 rfl
  -- Ten lexemes and the end of the source.
  obtain ⟨budget, enough⟩ : ∃ budget,
      (spliceSource (Value.shown (.markup s)).toList).length + 1 = budget + 11 := by
    refine Nat.exists_eq_add_of_le' ?_
    have long : constructorName.toList.length = 18 := by decide
    rw [spliceSource_shown, List.length_append, long]
    omega
  unfold lex?
  dsimp only
  rw [unifyLines_of_inLine inLine, if_neg (by simpa using noNull), enough, spliceSource_shown,
    lexFrom_callee isCallee_constructorName rfl, lexFrom_openBracket (by decide) rfl,
    lexFrom_callee markup rfl, lexFrom_openBracket (by decide) rfl,
    lexFrom_callee verbatim rfl, lexFrom_openBracket (by decide) rfl,
    lexFrom_quoted s.toList rfl rfl, lexFrom_closing]
  rfl

/-! ### The call -/

/-- The call that shown source stands for in a splice. -/
def shownCall (s : String) : Expr :=
  .call (.name constructorName 1)
    [.call (.name "TypstString" 1) [.call (.name "TypstText" 1) [.constant (.str s)] [] 1] [] 1]
    [] 1

set_option maxRecDepth 2000 in
/-- Reading does not depend on the text. -/
theorem run_expressions_shown (fuel : Nat) (text : List Char) :
    (expressions (fuel + 100)).run (shownLexemes text) =
      some (shownCall (String.ofList (text ++ [])), []) :=
  rfl

theorem parse?_shown (s : String) :
    parse? (spliceSource (Value.shown (.markup s)).toList) = some (shownCall s) := by
  unfold parse?
  rw [lex?_shown, Option.bind_eq_bind, Option.bind_some, run_expressions_shown, List.append_nil,
    String.ofList_toList]
  rfl

/-! ### The splice -/

/-- There is no comment in a quoted text. -/
theorem commentsFrom_quoted (text : List Char) {rest : List Char}
    (apart : rest.head?.any isQuote = false) :
    commentsFrom 0 (Text.quoted text ++ rest) = commentsFrom 0 rest := by
  have read := readBody_quoted text apart
  rw [List.append_cons] at read
  have passed := commentsFrom_text (isQuote_quoteFor text) read
  simpa [Text.quoted] using passed

theorem comments_shown (s : String) :
    comments (spliceSource (Value.shown (.markup s)).toList) = [] := by
  have silent : ("TypstString".toList ++ '(' :: ("TypstText".toList ++ ['('])).all (IsSilent ·) =
      true := by decide
  have parts : (Value.shown (.markup s)).toList ++ [')'] =
      ("TypstString".toList ++ '(' :: ("TypstText".toList ++ ['('])) ++
        (Text.quoted s.toList ++ [')', ')', ')']) := by
    rw [toList_shown_markup]
    simp only [List.append_assoc, List.cons_append, List.nil_append]
  rw [comments_spliceSource, unifyLines_of_inLine (inLine_of_mem_shown s), parts,
    commentsFrom_append fun c member => of_decide_eq_true (List.all_eq_true.1 silent c member),
    commentsFrom_quoted s.toList rfl]
  rfl

theorem closing_shown (s : String) :
    closing ((Value.shown (.markup s)).toList ++ [')']) =
      .ok ((Value.shown (.markup s)).toList, []) := by
  have calls : CallsConstructor (Value.shown (.markup s)).toList :=
    ⟨_, _, _, _, parse?_shown s, rfl⟩
  -- Only comments can lead the search astray.
  refine closing_of_calls calls ?_
  rw [comments_shown]
  exact fun comment among => absurd among List.not_mem_nil

/-- Contents that are accepted are the one splice of a template of their own. -/
theorem scan_alone {contents : List Char} {call : Expr} (enclosed : Enclosed 0 .code contents)
    (filled : contents.all Text.isBlank = false)
    (parsed : parse? (spliceSource contents) = some call) (oneValue : hasOneValue call = true)
    (accepted : objection? call = none) :
    scan ('\\' :: '(' :: (contents ++ [')'])) = .ok [.splice ⟨contents, 0, call⟩] := by
  have read : Splice.ofContents contents 0 = .ok ⟨contents, 0, call⟩ :=
    ofContents_eq_ok_iff.2 ⟨filled, parsed, oneValue, accepted, rfl, rfl⟩
  have divided := @Divided.splice 1 0 ⟨contents, 0, call⟩ [] [] enclosed read (.done _ 0)
  exact scan_eq_ok_iff.2 (.backslash divided)

theorem scan_shown (s : String) :
    scan ('\\' :: '(' :: ((Value.shown (.markup s)).toList ++ [')'])) =
      .ok [.splice ⟨(Value.shown (.markup s)).toList, 0, shownCall s⟩] := by
  obtain ⟨-, enclosed⟩ := closing_eq_ok_iff.1 (closing_shown s)
  have filled : (Value.shown (.markup s)).toList.all Text.isBlank = false := by
    rw [toList_shown_markup]
    rfl
  have accepted : objection? (shownCall s) = none := rfl
  exact scan_alone enclosed filled (parse?_shown s) rfl accepted

/-! ### Its value -/

section

variable {r : Markup.Registry} {names : OrderedMap Value}

/-- The two constructors take a text as it is. -/
theorem constructed_source (r : Markup.Registry) (s : String) :
    (do
      let v ← applyTo r (.builtin .verbatim) ⟨[.str s], []⟩
      applyTo r (.builtin .markup) ⟨[v], []⟩) = .ok (.markup s) :=
  rfl

theorem run_renderSegment_shown (s : String)
    (markup : names.get? "TypstString" = some (.builtin .markup))
    (verbatim : names.get? "TypstText" = some (.builtin .verbatim)) :
    (renderSegment (.splice ⟨(Value.shown (.markup s)).toList, 0, shownCall s⟩)).run
        { names := initialNames names, registry := r } =
      .ok (s.toList, { names := initialNames names, registry := r }) := by
  have foundMarkup : valueOf? (initialNames names) "TypstString" = some (.builtin .markup) :=
    (valueOf?_initialNames_of_ne (by decide)).trans markup
  have foundVerbatim : valueOf? (initialNames names) "TypstText" = some (.builtin .verbatim) :=
    (valueOf?_initialNames_of_ne (by decide)).trans verbatim
  let around : Surroundings := { names := initialNames names, registry := r }
  have text : (evaluate (.constant (.str s))).run around = .ok (.str s, around) := rfl
  have none (callee : Value) : (evaluateKeywords callee [] []).run around = .ok ([], around) := rfl
  have inner := run_call rfl foundVerbatim rfl text (none _) 1 1
  have outer := run_call rfl foundMarkup rfl inner (none _) 1 1
  exact run_renderSegment_of_callee rfl rfl (valueOf?_initialNames names) outer (none _)

end

/-- Finished source survives being shown and read back in a template. -/
theorem shown_source_renders (r : Markup.Registry) (s : String) {names : OrderedMap Value}
    (markup : names.get? "TypstString" = some (.builtin .markup))
    (verbatim : names.get? "TypstText" = some (.builtin .verbatim)) :
    ∃ source t,
      (do
        let v ← applyTo r (.builtin .verbatim) ⟨[.str s], []⟩
        applyTo r (.builtin .markup) ⟨[v], []⟩) = .ok source ∧
      ofSource? ('\\' :: '(' :: (source.shown.toList ++ [')'])) = .ok t ∧
      (∃ call, t.segments = [.splice ⟨source.shown.toList, 0, call⟩]) ∧
      t.render names r = .ok (.markup s) := by
  refine ⟨.markup s, ⟨_, _⟩, constructed_source r s,
    ofSource?_eq_ok_iff.2 ⟨_, scan_shown s, rfl⟩, ⟨shownCall s, rfl⟩, ?_⟩
  have rendered := Rendered.splice (run_renderSegment_shown (r := r) s markup verbatim) (.done _)
  refine render_eq_ok_iff.2 ⟨_, _, rendered, ?_⟩
  rw [List.append_nil, String.ofList_toList]

theorem shown_source_renders_quotes :
    ∃ names : OrderedMap Value, names.get? "TypstString" = some (.builtin .markup) ∧
      names.get? "TypstText" = some (.builtin .verbatim) ∧
      ∃ source t,
        (do
          let v ← applyTo .builtin (.builtin .verbatim) ⟨[.str "'\\(\"\\\\')\r\x07\u2028"], []⟩
          applyTo .builtin (.builtin .markup) ⟨[v], []⟩) = .ok source ∧
        ofSource? ('\\' :: '(' :: (source.shown.toList ++ [')'])) = .ok t ∧
        (∃ call, t.segments = [.splice ⟨source.shown.toList, 0, call⟩]) ∧
        t.render names .builtin = .ok (.markup "'\\(\"\\\\')\r\x07\u2028") := by
  have markup : (OrderedMap.ofList
      [("TypstString", Value.builtin .markup), ("TypstText", .builtin .verbatim)]).get?
        "TypstString" = some (.builtin .markup) := rfl
  have verbatim : (OrderedMap.ofList
      [("TypstString", Value.builtin .markup), ("TypstText", .builtin .verbatim)]).get?
        "TypstText" = some (.builtin .verbatim) := rfl
  exact ⟨_, markup, verbatim, shown_source_renders .builtin _ markup verbatim⟩

end TypstMarkup.Template
