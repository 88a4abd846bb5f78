import TypstMarkup.Proofs.Expression.Blank
import TypstMarkup.Proofs.Expression.Quoted
import TypstMarkup.Proofs.Template.Commented
import TypstMarkup.Proofs.Template.Constructor
import TypstMarkup.Proofs.Template.Written

/-!
Contents that stand for a call of the constructor. They are accepted if the search for the closing
bracket passes over them and there is no objection to the call. Quotes and brackets in their
comments are all that can lead the search astray.
-/
namespace TypstMarkup.Template

open Expression

/-! ### Line ends -/

theorem unifyLines_eq_quotes {text rest : List Char} {quote : Char}
    (quoted : isQuote quote = true) (same : unifyLines text = quote :: quote :: quote :: rest) :
    ∃ more, text = quote :: quote :: quote :: more ∧ unifyLines more = rest := by
  have noFeed : quote ≠ '\n' := quote_ne quoted (by decide)
  obtain ⟨_, rfl, one⟩ := unifyLines_eq_cons_of_ne noFeed same
  obtain ⟨_, rfl, two⟩ := unifyLines_eq_cons_of_ne noFeed one
  obtain ⟨more, rfl, later⟩ := unifyLines_eq_cons_of_ne noFeed two
  exact ⟨more, rfl, later⟩

/-- Of an escaped line end that is made of two characters, the second one is not escaped. -/
theorem Enclosed.ofUnifyEscaped {depth : Nat} {within : Within} {contents rest : List Char}
    {d : Char} (same : unifyLines contents = '\\' :: d :: rest)
    (escaped : ∀ d rest, Enclosed depth within rest → Enclosed depth within ('\\' :: d :: rest))
    (tail : ∀ {contents}, unifyLines contents = rest → Enclosed depth within contents)
    (quoted : within.Quoted) : Enclosed depth within contents := by
  obtain ⟨_, rfl, next⟩ := unifyLines_eq_cons_of_ne (by decide) same
  rcases unifyLines_eq_cons next with ⟨_, rfl, later⟩ | ⟨rfl, _, later, rfl | rfl⟩
  · exact escaped _ _ (tail later)
  · exact escaped _ _ (tail later)
  · exact escaped _ _ ((tail later).feedAhead quoted (.inl rfl))

/-- Making line ends equal hides no end of a text. -/
theorem enclosed_of_unifyLines {depth : Nat} {within : Within} {contents : List Char}
    (enclosed : Enclosed depth within (unifyLines contents)) (quoted : within.Quoted) :
    Enclosed depth within contents := by
  generalize same : unifyLines contents = text at enclosed
  induction enclosed generalizing contents with
  | done =>
    rw [unifyLines_eq_nil same]
    exact .done
  | openTriple quote tail ih =>
    obtain ⟨_, rfl, later⟩ := unifyLines_eq_quotes quote same
    exact .openTriple quote (ih quote later)
  | openSingle quote lone tail ih =>
    obtain ⟨more, rfl, rfl⟩ := unifyLines_eq_cons_of_ne (quote_ne quote (by decide)) same
    refine .openSingle quote (fun starts => lone (prefix_unifyLines ?_ starts)) (ih quote rfl)
    simpa using (quote_ne quote (by decide)).symm
  | openBracket tail ih =>
    obtain ⟨_, rfl, later⟩ := unifyLines_eq_cons_of_ne (by decide) same
    exact .openBracket (ih trivial later)
  | closeBracket tail ih =>
    obtain ⟨_, rfl, later⟩ := unifyLines_eq_cons_of_ne (by decide) same
    exact .closeBracket (ih trivial later)
  | plain noQuote noOpen noClose tail ih =>
    rcases unifyLines_eq_cons same with ⟨_, rfl, later⟩ | ⟨rfl, _, later, rfl | rfl⟩
    · exact .plain noQuote noOpen noClose (ih trivial later)
    · exact (ih trivial later).feedAhead trivial (.inr rfl)
    · exact ((ih trivial later).feedAhead trivial (.inl rfl)).feedAhead trivial (.inr rfl)
  | escapedSingle tail ih =>
    exact .ofUnifyEscaped same (fun _ _ => .escapedSingle) (ih quoted) quoted
  | closeSingle tail ih =>
    obtain ⟨_, rfl, later⟩ := unifyLines_eq_cons_of_ne (quote_ne quoted (by decide)) same
    exact .closeSingle (ih trivial later)
  | insideSingle noSlash noQuote tail ih =>
    rcases unifyLines_eq_cons same with ⟨_, rfl, later⟩ | ⟨rfl, _, later, rfl | rfl⟩
    · exact .insideSingle noSlash noQuote (ih quoted later)
    · exact (ih quoted later).feedAhead quoted (.inr rfl)
    · exact ((ih quoted later).feedAhead quoted (.inl rfl)).feedAhead quoted (.inr rfl)
  | escapedTriple tail ih =>
    exact .ofUnifyEscaped same (fun _ _ => .escapedTriple) (ih quoted) quoted
  | closeTriple tail ih =>
    obtain ⟨_, rfl, later⟩ := unifyLines_eq_quotes quoted same
    exact .closeTriple (ih trivial later)
  | @insideTriple depth quote c rest noSlash goesOn tail ih =>
    rcases unifyLines_eq_cons same with ⟨more, rfl, rfl⟩ | ⟨rfl, _, later, rfl | rfl⟩
    · refine .insideTriple noSlash (fun starts => goesOn ?_) (ih quoted rfl)
      rw [List.cons_prefix_cons] at starts ⊢
      refine ⟨starts.1, prefix_unifyLines ?_ starts.2⟩
      simpa using (quote_ne (d := '\r') quoted (by decide)).symm
    · exact (ih quoted later).feedAhead quoted (.inr rfl)
    · exact ((ih quoted later).feedAhead quoted (.inl rfl)).feedAhead quoted (.inr rfl)

/-! ### The constructor's name and bracket -/

theorem isCallee_constructorName : IsCallee constructorName.toList :=
  ⟨'_', _, rfl, by decide, by decide, by decide, by decide⟩

theorem run_expressions_empty (fuel line : Nat) :
    (expressions (fuel + 40)).run
        [⟨.name constructorName, 1⟩, ⟨.symbol "(", 1⟩, ⟨.symbol ")", line⟩] =
      some (.call (.name constructorName 1) [] [] 1, []) :=
  rfl

theorem lex?_of_blank {contents : List Char} {lexemes : List Lexeme}
    (blank : contents.all Text.isBlank = true)
    (lexed : lex? (spliceSource contents) = some lexemes) :
    ∃ line, lexemes = [⟨.name constructorName, 1⟩, ⟨.symbol "(", 1⟩, ⟨.symbol ")", line⟩] := by
  have blanks : ∀ c ∈ unifyLines contents, Text.isBlank c = true := fun c member => by
    by_cases feed : c = '\n'
    · rw [feed]
      decide
    · exact List.all_eq_true.1 blank c (mem_of_mem_unifyLines feed member)
  unfold lex? at lexed
  rw [unifyLines_spliceSource] at lexed
  dsimp only at lexed
  split at lexed
  · cases lexed
  have long : 2 ≤ (constructorName.toList ++ '(' :: (unifyLines contents ++ [')'])).length + 1 := by
    simp
    omega
  obtain ⟨budget, same⟩ := Nat.exists_eq_add_of_le' long
  rw [same, lexFrom_callee isCallee_constructorName rfl, lexFrom_openBracket (by decide) rfl]
    at lexed
  obtain ⟨call, rest, rfl⟩ := Option.map_eq_some_iff.1 lexed
  obtain ⟨arguments, inside, rfl⟩ := Option.map_eq_some_iff.1 rest
  obtain ⟨line, rfl⟩ := lexFrom_blanks blanks rfl inside
  exact ⟨line, rfl⟩

/-- Blanks are no argument. -/
theorem parse?_of_blank {contents : List Char} {e : Expr}
    (blank : contents.all Text.isBlank = true) (parsed : parse? (spliceSource contents) = some e) :
    e = .call (.name constructorName 1) [] [] 1 := by
  obtain ⟨lexemes, lexed, parsed⟩ := Option.bind_eq_some_iff.1 parsed
  obtain ⟨line, rfl⟩ := lex?_of_blank blank lexed
  rw [run_expressions_empty (30 * (spliceSource contents).length + 60)] at parsed
  cases parsed
  rfl

/-! ### Calls of the constructor -/

theorem comments_spliceSource (contents : List Char) :
    comments (spliceSource contents) = commentsFrom 0 (unifyLines contents ++ [')']) := by
  have silent : (constructorName.toList ++ ['(']).all (IsSilent ·) = true := by decide
  rw [comments, unifyLines_spliceSource, List.append_cons, commentsFrom_append fun c member =>
    of_decide_eq_true (List.all_eq_true.1 silent c member)]

/-- Where the comments are quiet, the search finds the constructor's bracket. -/
theorem closing_of_calls {contents : List Char} (calls : CallsConstructor contents)
    (quiet : Quiet (comments (spliceSource contents))) :
    closing (contents ++ [')']) = .ok (contents, []) := by
  obtain ⟨value, keywords, line, place, parsed, -⟩ := calls
  obtain ⟨⟨_, _, inside, lexed, ends⟩, -⟩ | ⟨-, noCall⟩ := parse?_spliceSource parsed
  · obtain ⟨_, _, rest, same, read⟩ := lexed_spliceSource lexed
    cases same
    rw [comments_spliceSource] at quiet
    obtain ⟨found, last, enclosed⟩ := closable_of_lexed read [] rfl ends ⟨by simp, quiet⟩
    obtain ⟨rfl, -⟩ := List.append_inj' last rfl
    exact closing_eq_ok_iff.2 ⟨rfl, enclosed_of_unifyLines enclosed trivial⟩
  · cases noCall

/-- Contents that stand for a call of the constructor are accepted exactly if the search for the
closing bracket goes to their end and there is no objection to the call. The search does go to their
end if their comments hold no quotes and no round brackets. -/
theorem call_accepted_iff (contents : List Char) (call : Expr)
    (parsed : parse? (spliceSource contents) = some call) (calls : CallsConstructor contents) :
    ((∃ s, scan ('\\' :: '(' :: (contents ++ [')'])) = .ok [.splice s] ∧
        s.contents = contents ∧ s.position = 0) ↔
      closing (contents ++ [')']) = .ok (contents, []) ∧ objection? call = none) ∧
    (Quiet (comments (spliceSource contents)) →
      closing (contents ++ [')']) = .ok (contents, [])) := by
  refine ⟨⟨?_, ?_⟩, closing_of_calls calls⟩
  · rintro ⟨s, scanned, rfl, -⟩
    obtain ⟨enclosed, read⟩ := read_of_divided (scan_eq_ok_iff.1 scanned) List.mem_cons_self
    obtain ⟨-, same, -, accepted, -⟩ := ofContents_eq_ok_iff.1 read
    rw [parsed] at same
    cases same
    exact ⟨closing_eq_ok_iff.2 ⟨rfl, enclosed⟩, accepted⟩
  · rintro ⟨found, accepted⟩
    obtain ⟨value, keywords, line, place, same, unstarred⟩ := calls
    rw [parsed] at same
    cases same
    have filled : contents.all Text.isBlank = false := by
      by_contra blank
      cases parse?_of_blank (by simpa using blank) parsed
    have oneValue :
        hasOneValue (.call (.name constructorName line) [value] keywords place) = true :=
      hasOneValue_iff.2 ⟨_, value, keywords, place, rfl, unstarred⟩
    have read := ofContents_eq_ok_iff (s := ⟨contents, 0, _⟩).2
      ⟨filled, parsed, oneValue, accepted, rfl, rfl⟩
    obtain ⟨s, same, start, divides⟩ := divided_splice ⟨found, _, read⟩ 0
    have divided := divides [] [] 0 (.done _ 0)
    exact ⟨s, scan_eq_ok_iff.2 divided, same, start⟩

/-- Whether contents stand for a call of the constructor that there is no objection to. -/
def isCall (contents : List Char) : Bool :=
  (parse? (spliceSource contents)).any fun
    | .call (.name id line) [value] keywords place =>
      id == constructorName && !value.isStarred &&
        (objection? (.call (.name id line) [value] keywords place)).isNone
    | _ => false

theorem exists_call_of_isCall (contents : List Char) (called : isCall contents = true) :
    ∃ call, parse? (spliceSource contents) = some call ∧ objection? call = none ∧
      CallsConstructor contents := by
  unfold isCall at called
  cases parsed : parse? (spliceSource contents) with
  | none =>
    rw [parsed] at called
    cases called
  | some call =>
    rw [parsed] at called
    simp only [Option.any_some] at called
    split at called
    · rename_i id line value keywords place
      simp only [Bool.and_eq_true, beq_iff_eq, Bool.not_eq_true', Option.isNone_iff_eq_none]
        at called
      obtain ⟨⟨rfl, unstarred⟩, accepted⟩ := called
      exact ⟨_, rfl, accepted, value, keywords, line, place, parsed, unstarred⟩
    · cases called

theorem call_accepted_commented :
    ∃ s, scan "\\(f('#)', [1]), # one\n  mode=(2))".toList = .ok [.splice s] ∧
      s.contents = "f('#)', [1]), # one\n  mode=(2)".toList ∧ s.position = 0 := by
  obtain ⟨call, parsed, accepted, calls⟩ :=
    exists_call_of_isCall "f('#)', [1]), # one\n  mode=(2)".toList (by decide +kernel)
  obtain ⟨accepts, found⟩ := call_accepted_iff _ call parsed calls
  exact accepts.2 ⟨found (by decide +kernel), accepted⟩

/-- The search takes the quote in the comment for the start of a text. -/
theorem comment_hides_bracket :
    (∃ call, parse? (spliceSource "1 # it's\n".toList) = some call ∧ objection? call = none) ∧
      CallsConstructor "1 # it's\n".toList ∧
      ¬ ∃ s, scan "\\(1 # it's\n)".toList = .ok [.splice s] := by
  obtain ⟨call, parsed, accepted, calls⟩ :=
    exists_call_of_isCall "1 # it's\n".toList (by decide +kernel)
  have fails : (scan "\\(1 # it's\n)".toList).toBool = false := by decide +kernel
  refine ⟨⟨call, parsed, accepted⟩, calls, ?_⟩
  rintro ⟨s, scanned⟩
  rw [scanned] at fails
  cases fails

end TypstMarkup.Template
