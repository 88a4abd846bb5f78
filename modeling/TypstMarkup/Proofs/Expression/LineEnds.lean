import TypstMarkup.Expression.Lexer

/-!
Line ends made equal. All other characters stay, in their order, and none but line feeds are new.
-/
namespace TypstMarkup.Expression

theorem unifyLines_cons {c : Char} (noReturn : c ≠ '\r') (rest : List Char) :
    unifyLines (c :: rest) = c :: unifyLines rest := by
  rw [unifyLines]
  · exact fun _ same => absurd same noReturn
  · exact noReturn

/-- A carriage return becomes a line feed, unless one follows anyway. -/
theorem unifyLines_return (rest : List Char) :
    unifyLines ('\r' :: rest) = '\n' :: unifyLines rest ∨
      ∃ more, rest = '\n' :: more ∧ unifyLines ('\r' :: rest) = '\n' :: unifyLines more := by
  match rest with
  | '\n' :: more => exact .inr ⟨more, rfl, rfl⟩
  | [] => exact .inl rfl
  | c :: more =>
    by_cases feed : c = '\n'
    · subst feed
      exact .inr ⟨more, rfl, rfl⟩
    · refine .inl ?_
      rw [unifyLines]
      rintro more ⟨⟩
      exact feed rfl

theorem prefix_of_prefix_unifyLines {start text : List Char} (noFeed : '\n' ∉ start)
    (starts : start <+: unifyLines text) : start <+: text := by
  induction start generalizing text with
  | nil => exact List.nil_prefix
  | cons d start ih =>
    have noFeeds : d ≠ '\n' ∧ '\n' ∉ start := by
      rw [List.mem_cons, not_or] at noFeed
      exact ⟨Ne.symm noFeed.1, noFeed.2⟩
    cases text with
    | nil => exact starts
    | cons e text =>
      by_cases noReturn : e = '\r'
      · subst noReturn
        rcases unifyLines_return text with same | ⟨more, -, same⟩
        · rw [same, List.cons_prefix_cons] at starts
          exact absurd starts.1 noFeeds.1
        · rw [same, List.cons_prefix_cons] at starts
          exact absurd starts.1 noFeeds.1
      · rw [unifyLines_cons noReturn, List.cons_prefix_cons] at starts
        exact List.cons_prefix_cons.2 ⟨starts.1, ih noFeeds.2 starts.2⟩

theorem unifyLines_append {before : List Char} (noReturn : '\r' ∉ before) (rest : List Char) :
    unifyLines (before ++ rest) = before ++ unifyLines rest := by
  induction before with
  | nil => rfl
  | cons c before ih =>
    rw [List.mem_cons, not_or] at noReturn
    rw [List.cons_append, unifyLines_cons (Ne.symm noReturn.1), ih noReturn.2, List.cons_append]

theorem unifyLines_append_bracket (text : List Char) :
    unifyLines (text ++ [')']) = unifyLines text ++ [')'] := by
  fun_induction unifyLines text with
  | case1 => rfl
  | case2 rest ih => exact congrArg ('\n' :: ·) ih
  | case3 rest noFeed ih =>
    rw [List.cons_append, unifyLines, ih]
    · rfl
    · intro more same
      cases rest with
      | nil => cases same
      | cons c rest =>
        cases same
        exact noFeed rest rfl
  | case4 c rest noReturns noReturn ih =>
    rw [List.cons_append, unifyLines_cons noReturn, ih]
    rfl

theorem mem_of_mem_unifyLines {c : Char} (noFeed : c ≠ '\n') {text : List Char}
    (member : c ∈ unifyLines text) : c ∈ text := by
  fun_induction unifyLines text with
  | case1 => exact member
  | case2 rest ih =>
    rcases List.mem_cons.1 member with same | member
    · exact absurd same noFeed
    · exact List.mem_cons_of_mem _ (List.mem_cons_of_mem _ (ih member))
  | case3 rest alone ih =>
    rcases List.mem_cons.1 member with same | member
    · exact absurd same noFeed
    · exact List.mem_cons_of_mem _ (ih member)
  | case4 d rest noReturns noReturn ih =>
    rcases List.mem_cons.1 member with same | member
    · exact List.mem_cons.2 (.inl same)
    · exact List.mem_cons_of_mem _ (ih member)

theorem unifyLines_eq_nil {text : List Char} (same : unifyLines text = []) : text = [] := by
  rw [unifyLines.eq_def] at same
  split at same
  · rfl
  all_goals cases same

theorem unifyLines_eq_cons {text rest : List Char} {c : Char} (same : unifyLines text = c :: rest) :
    (∃ more, text = c :: more ∧ unifyLines more = rest) ∨
      (c = '\n' ∧ ∃ more, unifyLines more = rest ∧
        (text = '\r' :: more ∨ text = '\r' :: '\n' :: more)) := by
  cases text with
  | nil => cases same
  | cons d text =>
    by_cases noReturn : d = '\r'
    · subst noReturn
      rcases unifyLines_return text with alone | ⟨more, rfl, both⟩
      · rw [alone] at same
        cases same
        exact .inr ⟨rfl, text, rfl, .inl rfl⟩
      · rw [both] at same
        cases same
        exact .inr ⟨rfl, more, rfl, .inr rfl⟩
    · rw [unifyLines_cons noReturn] at same
      cases same
      exact .inl ⟨text, rfl, rfl⟩

theorem unifyLines_eq_cons_of_ne {text rest : List Char} {c : Char} (noFeed : c ≠ '\n')
    (same : unifyLines text = c :: rest) : ∃ more, text = c :: more ∧ unifyLines more = rest := by
  rcases unifyLines_eq_cons same with found | ⟨feed, -⟩
  · exact found
  · exact absurd feed noFeed

theorem prefix_unifyLines {start text : List Char} (noReturn : '\r' ∉ start)
    (starts : start <+: text) : start <+: unifyLines text := by
  obtain ⟨rest, rfl⟩ := starts
  rw [unifyLines_append noReturn]
  exact List.prefix_append _ _

end TypstMarkup.Expression
