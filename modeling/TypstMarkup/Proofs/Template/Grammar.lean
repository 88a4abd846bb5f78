import TypstMarkup.Proofs.Template.Malformed

/-!
The grammar of what stands before a closing bracket. Balanced texts are made of plain characters, of
balanced groups, and of literals in one or three quotes. The search for the closing bracket accepts
exactly the balanced texts. Every text is one of three: a balanced text and a closing bracket behind
it, a text that ends within a literal, or a text that leaves groups open. That decides how a search
ends.
-/
namespace TypstMarkup.Template

/-! ### Literals -/

/-- Quotes that open a literal in front of a text: three equal ones wherever three stand there. -/
inductive Opens : List Char → List Char → Prop where
  | triple {c : Char} (quote : isQuote c = true) (behind : List Char) : Opens [c, c, c] behind
  | single {c : Char} {behind : List Char} (quote : isQuote c = true)
      (lone : ¬ [c, c] <+: behind) : Opens [c] behind

/-- What stands behind the opening of a literal, up to the next occurrence of its quotes that is not
skipped. A backslash skips the character after it. -/
inductive Ends (quotes : List Char) : List Char → Prop where
  | close : Ends quotes quotes
  | skip (d : Char) {rest : List Char} (tail : Ends quotes rest) : Ends quotes ('\\' :: d :: rest)
  | inside {c : Char} {rest : List Char} (noSlash : c ≠ '\\') (goesOn : ¬ quotes <+: c :: rest)
      (tail : Ends quotes rest) : Ends quotes (c :: rest)

/-- A literal with these quotes ends somewhere in a text. -/
def Closes (quotes body : List Char) : Prop :=
  ∃ text rest, body = text ++ rest ∧ Ends quotes text

/-! ### Balanced texts -/

/-- Texts in which every group and every literal is closed, with what stands behind them. -/
inductive Balanced : List Char → List Char → Prop where
  | done (behind : List Char) : Balanced [] behind
  | plain {c : Char} {text behind : List Char} (noQuote : isQuote c = false) (noOpen : c ≠ '(')
      (noClose : c ≠ ')') (tail : Balanced text behind) : Balanced (c :: text) behind
  | group {inner text behind : List Char} (inside : Balanced inner (')' :: (text ++ behind)))
      (tail : Balanced text behind) : Balanced ('(' :: (inner ++ ')' :: text)) behind
  | literal {quotes body text behind : List Char} (opens : Opens quotes (body ++ (text ++ behind)))
      (ends : Ends quotes body) (tail : Balanced text behind) :
      Balanced (quotes ++ (body ++ text)) behind

/-- Texts that begin a balanced one and have no literal open: some groups may be. -/
inductive Unfinished : List Char → List Char → Prop where
  | balanced {text behind : List Char} (whole : Balanced text behind) : Unfinished text behind
  | group {front text behind : List Char} (before : Balanced front ('(' :: (text ++ behind)))
      (inside : Unfinished text behind) : Unfinished (front ++ '(' :: text) behind

/-- Texts that begin a balanced one and end within a literal that never closes. -/
def EndsInLiteral (source : List Char) : Prop :=
  ∃ before quotes body, source = before ++ (quotes ++ body) ∧
    Unfinished before (quotes ++ body) ∧ Opens quotes body ∧ ¬ Closes quotes body

theorem Balanced.append {front text behind : List Char} (first : Balanced front (text ++ behind))
    (second : Balanced text behind) : Balanced (front ++ text) behind := by
  generalize same : text ++ behind = next at first
  induction first with
  | done => exact second
  | plain noQuote noOpen noClose tail ih => exact .plain noQuote noOpen noClose (ih same)
  | @group inner more next inside tail ih ihTail =>
    subst same
    rw [List.cons_append, List.append_assoc, List.cons_append]
    refine .group ?_ (ihTail rfl)
    rwa [List.append_assoc]
  | @literal quotes body more next opens ends tail ih =>
    subst same
    rw [List.append_assoc, List.append_assoc]
    refine .literal ?_ ends (ih rfl)
    rwa [List.append_assoc]

theorem Unfinished.after {front text behind : List Char} (first : Balanced front (text ++ behind))
    (second : Unfinished text behind) : Unfinished (front ++ text) behind := by
  cases second with
  | balanced whole => exact .balanced (first.append whole)
  | @group before text behind balanced inside =>
    rw [← List.append_assoc]
    refine .group (.append ?_ balanced) inside
    simpa using first

theorem EndsInLiteral.after {front source : List Char} (first : Balanced front source)
    (second : EndsInLiteral source) : EndsInLiteral (front ++ source) := by
  obtain ⟨before, quotes, body, rfl, unfinished, opens, endless⟩ := second
  exact ⟨front ++ before, quotes, body, by simp, unfinished.after first, opens, endless⟩

/-! ### What every text is -/

theorem exists_opens {c : Char} (quote : isQuote c = true) (rest : List Char) :
    ∃ quotes behind, c :: rest = quotes ++ behind ∧ quotes ≠ [] ∧ Opens quotes behind := by
  by_cases three : [c, c] <+: rest
  · obtain ⟨behind, rfl⟩ := three
    exact ⟨[c, c, c], behind, rfl, by simp, .triple quote behind⟩
  · exact ⟨[c], rest, rfl, by simp, .single quote three⟩

/-- The three things that a text can be. -/
inductive Reading : List Char → Prop where
  | closed {text rest : List Char} (balanced : Balanced text (')' :: rest)) :
      Reading (text ++ ')' :: rest)
  | literal {source : List Char} (inside : EndsInLiteral source) : Reading source
  | unclosed {source : List Char} (unfinished : Unfinished source []) : Reading source

theorem Reading.after {front source : List Char} (first : Balanced front source)
    (second : Reading source) : Reading (front ++ source) := by
  cases second with
  | @closed text rest balanced =>
    rw [← List.append_assoc]
    exact .closed (first.append balanced)
  | literal inside => exact .literal (inside.after first)
  | unclosed unfinished =>
    rw [← List.append_nil source] at first
    exact .unclosed (unfinished.after first)

theorem reading (source : List Char) : Reading source := by
  induction size : source.length using Nat.strongRecOn generalizing source with
  | ind size ih =>
    subst size
    cases source with
    | nil => exact .unclosed (.balanced (.done []))
    | cons c rest =>
      by_cases quote : isQuote c = true
      · obtain ⟨quotes, behind, same, filled, opens⟩ := exists_opens quote rest
        rw [same]
        by_cases closes : Closes quotes behind
        · obtain ⟨body, more, rfl, ends⟩ := closes
          have front : Balanced (quotes ++ (body ++ [])) more := .literal opens ends (.done more)
          have shorter : more.length < (c :: rest).length := by
            have := List.length_pos_iff.2 filled
            rw [same, List.length_append, List.length_append]
            omega
          have later := (ih _ shorter more rfl).after front
          simpa using later
        · exact .literal ⟨[], quotes, behind, rfl, .balanced (.done _), opens, closes⟩
      have noQuote : isQuote c = false := by simpa using quote
      by_cases opening : c = '('
      · subst opening
        have inside := ih _ (by simp) rest rfl
        cases inside with
        | @closed inner more balanced =>
          have front : Balanced ('(' :: (inner ++ ')' :: [])) more := .group balanced (.done more)
          have shorter : more.length < ('(' :: (inner ++ ')' :: more)).length := by
            simp only [List.length_cons, List.length_append]
            omega
          have later := (ih _ shorter more rfl).after front
          simpa using later
        | literal inside =>
          obtain ⟨before, quotes, body, rfl, unfinished, opens, endless⟩ := inside
          exact .literal ⟨'(' :: before, quotes, body, rfl, .group (.done _) unfinished, opens,
            endless⟩
        | unclosed unfinished => exact .unclosed (.group (.done _) unfinished)
      by_cases closing : c = ')'
      · subst closing
        exact .closed (.done _)
      · exact (ih _ (by simp) rest rfl).after (.plain noQuote opening closing (.done rest))

/-! ### The search -/

@[simp] theorem prepend_nil (found : Except SpliceReason (List Char × List Char)) :
    prepend [] found = found := by
  cases found <;> rfl

@[simp] theorem prepend_prepend (first second : List Char)
    (found : Except SpliceReason (List Char × List Char)) :
    prepend first (prepend second found) = prepend (first ++ second) found := by
  cases found with
  | error reason => rfl
  | ok pair => simp [prepend, Except.map]

@[simp] theorem prepend_error (before : List Char) (reason : SpliceReason) :
    prepend before (.error reason) = .error reason := rfl

/-- What the characters behind an opening belong to. -/
def Within.ofQuotes : List Char → Within
  | [c] => .single c
  | c :: _ => .triple c
  | [] => .code

section

variable {quotes behind : List Char} (opens : Opens quotes behind) (depth : Nat)

include opens

theorem closingFrom_opens : closingFrom depth .code (quotes ++ behind) =
    prepend quotes (closingFrom depth (.ofQuotes quotes) behind) := by
  cases opens with
  | triple quote => exact closingFrom_openTriple quote depth behind
  | single quote lone => exact closingFrom_openSingle quote lone depth

theorem closingFrom_close (rest : List Char) :
    closingFrom depth (.ofQuotes quotes) (quotes ++ rest) =
      prepend quotes (closingFrom depth .code rest) := by
  cases opens with
  | triple quote => exact closingFrom_closeTriple (quote_ne quote (by decide)) depth rest
  | single quote lone => exact closingFrom_closeSingle (quote_ne quote (by decide)) depth rest

theorem closingFrom_skip (d : Char) (rest : List Char) :
    closingFrom depth (.ofQuotes quotes) ('\\' :: d :: rest) =
      prepend ['\\', d] (closingFrom depth (.ofQuotes quotes) rest) := by
  cases opens with
  | triple quote => exact closingFrom_escapedTriple depth _ d rest
  | single quote lone => exact closingFrom_escapedSingle depth _ d rest

theorem closingFrom_inside {c : Char} {rest : List Char} (noSlash : c ≠ '\\')
    (goesOn : ¬ quotes <+: c :: rest) :
    closingFrom depth (.ofQuotes quotes) (c :: rest) =
      prepend [c] (closingFrom depth (.ofQuotes quotes) rest) := by
  cases opens with
  | triple quote => exact closingFrom_insideTriple noSlash goesOn depth
  | single quote lone =>
    refine closingFrom_insideSingle noSlash (fun same => goesOn ?_) depth rest
    rw [same]
    exact List.prefix_append _ rest

theorem closingFrom_short {rest : List Char} (short : rest = [] ∨ rest = ['\\']) :
    closingFrom depth (.ofQuotes quotes) rest = .error .unterminatedString := by
  cases opens <;> rcases short with rfl | rfl <;> rfl

end

theorem Ends.length_le {quotes body : List Char} (ends : Ends quotes body) :
    quotes.length ≤ body.length := by
  induction ends with
  | close => exact Nat.le_refl _
  | skip d tail ih => simp only [List.length_cons]; omega
  | inside noSlash goesOn tail ih => simp only [List.length_cons]; omega

/-- A literal is passed over as far as it goes. -/
theorem closingFrom_ends {quotes body behind : List Char} (opens : Opens quotes behind)
    (ends : Ends quotes body) (depth : Nat) (rest : List Char) :
    closingFrom depth (.ofQuotes quotes) (body ++ rest) =
      prepend body (closingFrom depth .code rest) := by
  induction ends with
  | close => exact closingFrom_close opens depth rest
  | skip d tail ih =>
    rw [List.cons_append, List.cons_append, closingFrom_skip opens, ih, prepend_prepend]
    rfl
  | @inside c body noSlash goesOn tail ih =>
    -- The quotes at the end of the literal are in the way of any that would reach beyond it.
    have still : ¬ quotes <+: c :: (body ++ rest) := fun starts =>
      goesOn (List.prefix_of_prefix_length_le starts (List.prefix_append (c :: body) rest)
        (Nat.le_trans tail.length_le (Nat.le_succ _)))
    rw [List.cons_append, closingFrom_inside opens depth noSlash still, ih, prepend_prepend]
    rfl

theorem closingFrom_endless {quotes behind : List Char} (opens : Opens quotes behind)
    (depth : Nat) (body : List Char) (endless : ¬ Closes quotes body) :
    closingFrom depth (.ofQuotes quotes) body = .error .unterminatedString := by
  induction size : body.length using Nat.strongRecOn generalizing body with
  | ind size ih =>
    subst size
    cases body with
    | nil => exact closingFrom_short opens depth (.inl rfl)
    | cons c rest =>
      by_cases slash : c = '\\'
      · subst slash
        cases rest with
        | nil => exact closingFrom_short opens depth (.inr rfl)
        | cons d rest =>
          have further : ¬ Closes quotes rest := by
            rintro ⟨text, after, rfl, ends⟩
            exact endless ⟨_, after, rfl, .skip d ends⟩
          have shorter : rest.length < ('\\' :: d :: rest).length := by
            rw [List.length_cons, List.length_cons]
            omega
          rw [closingFrom_skip opens, ih _ shorter rest further rfl, prepend_error]
      · have goesOn : ¬ quotes <+: c :: rest := by
          rintro ⟨after, same⟩
          exact endless ⟨quotes, after, same.symm, .close⟩
        have further : ¬ Closes quotes rest := by
          rintro ⟨text, after, rfl, ends⟩
          refine endless ⟨c :: text, after, rfl, .inside slash (fun starts => goesOn ?_) ends⟩
          exact starts.trans (List.prefix_append (c :: text) after)
        rw [closingFrom_inside opens depth slash goesOn, ih _ (by simp) rest further rfl,
          prepend_error]

/-- The search passes over a balanced text and is where it was. -/
theorem closingFrom_balanced {text behind : List Char} (balanced : Balanced text behind)
    (depth : Nat) : closingFrom depth .code (text ++ behind) =
      prepend text (closingFrom depth .code behind) := by
  induction balanced generalizing depth with
  | done behind => simp
  | plain noQuote noOpen noClose tail ih =>
    rw [List.cons_append, closingFrom_plain noQuote noOpen noClose, ih, prepend_prepend]
    rfl
  | @group inner text behind inside tail ih ihTail =>
    rw [List.cons_append, List.append_assoc, List.cons_append, closingFrom_openBracket, ih,
      closingFrom_closeBracket, ihTail]
    simp
  | @literal quotes body text behind opens ends tail ih =>
    rw [List.append_assoc, List.append_assoc, closingFrom_opens opens,
      closingFrom_ends opens ends, ih]
    simp

theorem closingFrom_unfinished {text behind : List Char} (unfinished : Unfinished text behind)
    (depth : Nat) : ∃ deeper, closingFrom depth .code (text ++ behind) =
      prepend text (closingFrom deeper .code behind) := by
  induction unfinished generalizing depth with
  | balanced whole => exact ⟨depth, closingFrom_balanced whole depth⟩
  | @group front text behind before inside ih =>
    obtain ⟨deeper, found⟩ := ih (depth + 1)
    refine ⟨deeper, ?_⟩
    rw [List.append_assoc, List.cons_append, closingFrom_balanced before,
      closingFrom_openBracket, found]
    simp

/-! ### How the search ends -/

theorem closing_of_balanced {text rest : List Char} (balanced : Balanced text (')' :: rest)) :
    closing (text ++ ')' :: rest) = .ok (text, rest) := by
  rw [closing, closingFrom_balanced balanced, closingFrom_lastBracket]
  simp [prepend, Except.map]

theorem closing_of_endsInLiteral {source : List Char} (inside : EndsInLiteral source) :
    closing source = .error .unterminatedString := by
  obtain ⟨before, quotes, body, rfl, unfinished, opens, endless⟩ := inside
  obtain ⟨deeper, found⟩ := closingFrom_unfinished unfinished 0
  rw [closing, found, closingFrom_opens opens, closingFrom_endless opens deeper body endless]
  simp

theorem closing_of_unfinished {source : List Char} (unfinished : Unfinished source []) :
    closing source = .error .unterminatedMarker := by
  obtain ⟨deeper, found⟩ := closingFrom_unfinished unfinished 0
  rw [List.append_nil] at found
  rw [closing, found]
  rfl

/-- A search that fails has come to the end within a literal, or outside of one. -/
theorem reason_of_closing {source : List Char} {reason : SpliceReason}
    (failed : closing source = .error reason) :
    EndsInLiteral source ∧ reason = .unterminatedString ∨
      ¬ EndsInLiteral source ∧ reason = .unterminatedMarker := by
  cases reading source with
  | closed balanced =>
    rw [closing_of_balanced balanced] at failed
    cases failed
  | literal inside =>
    rw [closing_of_endsInLiteral inside] at failed
    cases failed
    exact .inl ⟨inside, rfl⟩
  | unclosed unfinished =>
    rw [closing_of_unfinished unfinished] at failed
    cases failed
    refine .inr ⟨fun inside => ?_, rfl⟩
    have impossible := closing_of_endsInLiteral inside
    rw [closing_of_unfinished unfinished] at impossible
    cases impossible

/-- What stands behind a balanced text does not matter, unless it begins with a quote. -/
theorem Balanced.congr {text behind : List Char} (balanced : Balanced text behind)
    {other : List Char} (free : ∀ c, isQuote c = true → ¬ [c] <+: other) :
    Balanced text other := by
  induction balanced generalizing other with
  | done => exact .done other
  | plain noQuote noOpen noClose tail ih => exact .plain noQuote noOpen noClose (ih free)
  | group inside tail ih ihTail =>
    exact .group (ih fun c quote => not_starts_quote quote (by decide) _) (ihTail free)
  | @literal quotes body text behind opens ends tail ih =>
    refine .literal ?_ ends (ih free)
    cases opens with
    | triple quote => exact .triple quote _
    | @single c _ quote lone =>
      refine .single quote fun starts => lone ?_
      rw [← List.append_assoc] at starts ⊢
      have within := quotes_prefix_of_append (by simp) (free c quote) starts
      exact within.trans (List.prefix_append _ _)

theorem closing_eq_ok_iff_balanced {source text rest : List Char} :
    closing source = .ok (text, rest) ↔ source = text ++ ')' :: rest ∧ Balanced text [] := by
  constructor
  · intro found
    cases reading source with
    | closed balanced =>
      rw [closing_of_balanced balanced] at found
      cases found
      exact ⟨rfl, balanced.congr (by simp)⟩
    | literal inside =>
      rw [closing_of_endsInLiteral inside] at found
      cases found
    | unclosed unfinished =>
      rw [closing_of_unfinished unfinished] at found
      cases found
  · rintro ⟨rfl, balanced⟩
    have free (c : Char) (quote : isQuote c = true) : ¬ [c] <+: ')' :: rest :=
      not_starts_quote quote (by decide) rest
    exact closing_of_balanced (balanced.congr free)

/-! ### Positions -/

/-- A closing bracket stands at a position, behind a balanced text from `start` on. -/
def ClosesAt (source : List Char) (start i : Nat) : Prop :=
  start ≤ i ∧ source[i]? = some ')' ∧ Balanced ((source.drop start).take (i - start)) []

theorem closesAt_iff {source : List Char} {start i : Nat} :
    ClosesAt source start i ↔
      ∃ text rest, closing (source.drop start) = .ok (text, rest) ∧ start + text.length = i := by
  constructor
  · rintro ⟨before, bracket, balanced⟩
    obtain ⟨within, same⟩ := List.getElem?_eq_some_iff.1 bracket
    refine ⟨_, source.drop (i + 1), closing_eq_ok_iff_balanced.2 ⟨?_, balanced⟩, ?_⟩
    · have behind : (source.drop start).drop (i - start) = ')' :: source.drop (i + 1) := by
        rw [List.drop_drop, Nat.add_sub_cancel' before, List.drop_eq_getElem_cons within, same]
      rw [← behind, List.take_append_drop]
    · simp
      omega
  · rintro ⟨text, rest, found, rfl⟩
    obtain ⟨same, balanced⟩ := closing_eq_ok_iff_balanced.1 found
    refine ⟨Nat.le_add_right _ _, ?_, ?_⟩
    · rw [← List.getElem?_drop, same]
      simp
    · rw [same, Nat.add_sub_cancel_left, List.take_left]
      exact balanced

theorem closingPosition?_eq_ok_iff {source : List Char} {start marker i : Nat} :
    closingPosition? source start marker = .ok i ↔ ClosesAt source start i := by
  rw [closesAt_iff, closingPosition?]
  cases closing (source.drop start) with
  | ok pair =>
    obtain ⟨text, rest⟩ := pair
    simp
  | error reason => simp

/-- Where a closing bracket stands depends only on the text up to it. -/
theorem ClosesAt.congr {source other : List Char} {start start' i : Nat}
    (closes : ClosesAt source start i)
    (same : (other.drop start').take (i + 1 - start) = (source.drop start).take (i + 1 - start)) :
    ClosesAt other start' (start' + (i - start)) := by
  obtain ⟨before, bracket, balanced⟩ := closes
  have inside : i - start < i + 1 - start := by omega
  refine ⟨Nat.le_add_right _ _, ?_, ?_⟩
  · rw [← List.getElem?_drop, ← List.getElem?_take_of_lt inside, same,
      List.getElem?_take_of_lt inside, List.getElem?_drop, Nat.add_sub_cancel' before, bracket]
  · have shorter := congrArg (List.take (i - start)) same
    rw [List.take_take, List.take_take, Nat.min_eq_left (Nat.le_of_lt inside)] at shorter
    rwa [Nat.add_sub_cancel_left, shorter]

/-- A source has a line with the number that is counted for a position. -/
def HasLine (source : List Char) (position : Nat) : Prop :=
  source = [] ∨ (source.take position).count '\n' < (Text.lines source).length

theorem exists_location_iff {source : List Char} {position : Nat} :
    (∃ location, locate? source position = some location) ↔ HasLine source position := by
  unfold locate? lineText? HasLine
  cases source with
  | nil => simp
  | cons c rest => simp [← Option.isSome_iff_exists]

/-- The search ends at a position exactly if a closing bracket stands there behind a balanced text,
at one position at most, and whatever stands elsewhere. Else it fails, within a literal or not, and
tells of it at the marker, if the source has the line that is counted for the marker. It has one
for every position of its own. -/
theorem search_follows_grammar (source : List Char) (start marker : Nat) :
    (∀ i, closingPosition? source start marker = .ok i ↔ ClosesAt source start i) ∧
      (∀ i j, ClosesAt source start i → ClosesAt source start j → i = j) ∧
      (∀ i, ClosesAt source start i → ∀ other start' marker',
        (other.drop start').take (i + 1 - start) = (source.drop start).take (i + 1 - start) →
          closingPosition? other start' marker' = .ok (start' + (i - start))) ∧
      ((∀ i, ¬ ClosesAt source start i) → ∃ reason : SpliceReason,
        (EndsInLiteral (source.drop start) ∧
            reason.message = "unterminated string literal in splice" ∨
          ¬ EndsInLiteral (source.drop start) ∧ reason.message = "unterminated splice marker") ∧
        (HasLine source marker → ∃ location, locate? source marker = some location ∧
          closingPosition? source start marker =
            .error (.malformedTemplate reason marker location)) ∧
        (¬ HasLine source marker →
          closingPosition? source start marker = .error (.outOfRange "list"))) ∧
      (marker < source.length → HasLine source marker) := by
  refine ⟨fun i => closingPosition?_eq_ok_iff, ?_, ?_, ?_, ?_⟩
  · intro i j first second
    have found : closingPosition? source start marker = .ok i :=
      closingPosition?_eq_ok_iff.2 first
    have found' : closingPosition? source start marker = .ok j :=
      closingPosition?_eq_ok_iff.2 second
    rw [found] at found'
    exact Except.ok.inj found'
  · intro i closes other start' marker' same
    exact closingPosition?_eq_ok_iff.2 (closes.congr same)
  · intro unclosed
    cases found : closing (source.drop start) with
    | ok pair => exact absurd (closesAt_iff.2 ⟨pair.1, pair.2, found, rfl⟩) (unclosed _)
    | error reason =>
      refine ⟨reason, ?_, fun line => ?_, fun noLine => ?_⟩
      · rcases reason_of_closing found with ⟨inside, rfl⟩ | ⟨outside, rfl⟩
        · exact .inl ⟨inside, rfl⟩
        · exact .inr ⟨outside, rfl⟩
      · obtain ⟨location, located⟩ := exists_location_iff.2 line
        exact ⟨location, located, by simp only [closingPosition?, found, Fault.ofTemplate, located]⟩
      · cases located : locate? source marker with
        | some location => exact absurd (exists_location_iff.1 ⟨location, located⟩) noLine
        | none => simp only [closingPosition?, found, Fault.ofTemplate, located]
  · intro within
    exact exists_location_iff.1 (exists_location within)

/-- Brackets in literals of both sorts, and three quotes that are never closed. -/
theorem search_follows_grammar_quotes :
    ClosesAt "\\(f(\")\", '''it's)''') + (1)) (2)".toList 2 27 ∧
      ∃ reason location, closingPosition? "\\('''it''s)".toList 2 0 =
        .error (.malformedTemplate reason 0 location) := by
  constructor
  · obtain ⟨found, -⟩ := search_follows_grammar "\\(f(\")\", '''it's)''') + (1)) (2)".toList 2 0
    have closed : closing ("\\(f(\")\", '''it's)''') + (1)) (2)".toList.drop 2) =
        .ok ("f(\")\", '''it's)''') + (1)".toList, " (2)".toList) := by decide +kernel
    exact (found 27).1 (by rw [closingPosition?, closed]; rfl)
  · obtain ⟨-, -, -, fails, line⟩ := search_follows_grammar "\\('''it''s)".toList 2 0
    have endless : closing ("\\('''it''s)".toList.drop 2) = .error .unterminatedString := by
      decide +kernel
    obtain ⟨reason, -, reported, -⟩ := fails fun i closes => by
      obtain ⟨text, rest, found, -⟩ := closesAt_iff.1 closes
      rw [endless] at found
      cases found
    obtain ⟨location, -, failed⟩ := reported (line (by decide))
    exact ⟨reason, location, failed⟩

/-- A failure cannot be told of at a position behind the last line of a source. -/
theorem position_behind_last_line_is_not_reported :
    ¬ ∀ source start marker, (∃ i, closingPosition? source start marker = .ok i) ∨
      ∃ reason location, closingPosition? source start marker =
        .error (.malformedTemplate reason marker location) := by
  intro reported
  have unclosed : closing ("a\n".toList.drop 0) = .error .unterminatedMarker := by decide +kernel
  have nowhere : locate? "a\n".toList 2 = none := by decide +kernel
  have failed : closingPosition? "a\n".toList 0 2 = .error (.outOfRange "list") := by
    simp only [closingPosition?, unclosed, Fault.ofTemplate, nowhere]
  rcases reported "a\n".toList 0 2 with ⟨i, found⟩ | ⟨reason, location, found⟩
  · rw [failed] at found
    cases found
  · rw [failed] at found
    cases found

end TypstMarkup.Template
