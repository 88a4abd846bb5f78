import TypstMarkup.Fault

/-!
The closing bracket of a splice. Brackets are counted, except in texts in quotes: a text is opened
by one quote or by three equal ones, a backslash in it skips the character after it, and the next
occurrence of the same quoting closes it.
-/
namespace TypstMarkup.Template

/-- What the characters at some point of a splice belong to. -/
inductive Within where
  | code
  | single (quote : Char)
  | triple (quote : Char)
deriving DecidableEq, Repr

def isQuote (c : Char) : Bool :=
  c == '\'' || c == '"'

def prepend (before : List Char) (found : Except SpliceReason (List Char × List Char)) :
    Except SpliceReason (List Char × List Char) :=
  found.map fun (contents, rest) => (before ++ contents, rest)

/-- The contents up to the closing bracket and what follows it, for a search that has `depth`
further brackets open. -/
def closingFrom : Nat → Within → List Char → Except SpliceReason (List Char × List Char)
  | _, .code, [] => .error .unterminatedMarker
  | _, _, [] => .error .unterminatedString
  | depth, .code, c :: rest =>
    if isQuote c then
      match rest with
      | d :: e :: more =>
        if d = c ∧ e = c then prepend [c, d, e] (closingFrom depth (.triple c) more)
        else prepend [c] (closingFrom depth (.single c) (d :: e :: more))
      | rest => prepend [c] (closingFrom depth (.single c) rest)
    else if c = '(' then prepend [c] (closingFrom (depth + 1) .code rest)
    else if c = ')' then
      match depth with
      | 0 => .ok ([], rest)
      | depth + 1 => prepend [c] (closingFrom depth .code rest)
    else prepend [c] (closingFrom depth .code rest)
  | depth, .single quote, c :: rest =>
    if c = '\\' then
      match rest with
      | [] => .error .unterminatedString
      | d :: more => prepend [c, d] (closingFrom depth (.single quote) more)
    else if c = quote then prepend [c] (closingFrom depth .code rest)
    else prepend [c] (closingFrom depth (.single quote) rest)
  | depth, .triple quote, c :: rest =>
    if c = '\\' then
      match rest with
      | [] => .error .unterminatedString
      | d :: more => prepend [c, d] (closingFrom depth (.triple quote) more)
    else
      match rest with
      | d :: e :: more =>
        if c = quote ∧ d = quote ∧ e = quote then prepend [c, d, e] (closingFrom depth .code more)
        else prepend [c] (closingFrom depth (.triple quote) (d :: e :: more))
      | rest => prepend [c] (closingFrom depth (.triple quote) rest)

/-- The contents of a splice and what follows its closing bracket, for the text after its opening
bracket. -/
def closing (source : List Char) : Except SpliceReason (List Char × List Char) :=
  closingFrom 0 .code source

/-- The position of the closing bracket, for contents from a position on. A failure is told of at
the position of the marker. -/
def closingPosition? (source : List Char) (start marker : Nat) : Except Fault Nat :=
  match closing (source.drop start) with
  | .ok (contents, _) => .ok (start + contents.length)
  | .error reason => .error (.ofTemplate reason source marker)

theorem prepend_eq_ok_iff {before contents rest : List Char}
    {found : Except SpliceReason (List Char × List Char)} :
    prepend before found = .ok (contents, rest) ↔
      ∃ inner, found = .ok (inner, rest) ∧ contents = before ++ inner := by
  cases found with
  | error reason => simp [prepend, Except.map]
  | ok pair =>
    obtain ⟨inner, after⟩ := pair
    simp only [prepend, Except.map, Except.ok.injEq, Prod.mk.injEq]
    grind

/-- The search loses nothing: contents, bracket and rest are the text searched. -/
theorem eq_append_of_closingFrom (depth : Nat) (within : Within) (source : List Char)
    {contents rest : List Char} (h : closingFrom depth within source = .ok (contents, rest)) :
    source = contents ++ ')' :: rest := by
  fun_induction closingFrom depth within source generalizing contents rest <;>
    grind [prepend_eq_ok_iff]

end TypstMarkup.Template
