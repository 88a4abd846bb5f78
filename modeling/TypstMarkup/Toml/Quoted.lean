import TypstMarkup.Fault
import TypstMarkup.Number.Based
import TypstMarkup.Toml.Key

/-!
Strings and keys as they stand in a document. A string may run over several lines between tripled
quotes, and only double quotes allow escapes. A key keeps the blanks around it as part of its
written form.
-/
namespace TypstMarkup.Toml

inductive Trouble where
  /-- A character cannot stand where it does, or the text ends; `rest` starts there. -/
  | unexpected (rest : List Char)
  | malformed
  | fault (cause : Fault)

def isSpacing (c : Char) : Bool :=
  c == ' ' || c == '\t'

/-! ### Strings -/

/-- The character of an escape by code, unless the code is out of range. A code that stands for no
character of its own gives the replacement character. -/
def coded? (digits : List Char) : Option Char :=
  let isSurrogate := match digits with
    | first :: second :: _ => (first == 'd' || first == 'D') && !('0' ≤ second && second ≤ '7')
    | _ => false
  if isSurrogate then none
  else
    match Based.ofText? 16 digits with
    | some (.ofNat code) =>
      if h : code.isValidChar then some (Char.ofNatAux code h)
      else if code < 0x110000 then some '\uFFFD' else none
    | _ => none

/-- Reads an escape after its backslash. In a string of several lines a backslash may also hide
blanks with at least one line feed among them. -/
def escape? (block : Bool) (source : List Char) : Option (List Char × List Char) :=
  match source with
  | [] => none
  | c :: rest =>
    if block && (isSpacing c || c == '\n' || c == '\r') then
      let (hidden, rest) := source.span fun c => isSpacing c || c == '\n' || c == '\r'
      if hidden.contains '\n' then some ([], rest) else none
    else
      match c with
      | 'b' => some (['\x08'], rest)
      | 't' => some (['\t'], rest)
      | 'n' => some (['\n'], rest)
      | 'f' => some (['\x0c'], rest)
      | 'r' => some (['\r'], rest)
      | '"' => some (['"'], rest)
      | '\\' => some (['\\'], rest)
      | 'u' =>
        if rest.length < 4 then none else (coded? (rest.take 4)).map fun c => ([c], rest.drop 4)
      | 'U' =>
        if rest.length < 8 then none else (coded? (rest.take 8)).map fun c => ([c], rest.drop 8)
      | _ => none

/-- Reads a string after its opening quotes, within a budget of characters. Up to two quotes may
stand directly before three closing ones. -/
def stringBody? (quote : Char) (block : Bool) : Nat → List Char → Option (List Char × List Char)
  | 0, _ => none
  | budget + 1, source =>
    match source with
    | [] => none
    | c :: rest =>
      if isControl c && c != '\t' && !(block && (c == '\n' || c == '\r')) then none
      else if c == quote then
        if !block then some ([], rest)
        else
          let (quotes, rest) := source.span (· == quote)
          if quotes.length < 3 then
            (stringBody? quote block budget rest).map fun r => (quotes ++ r.1, r.2)
          else if quotes.length < 6 then some (quotes.drop 3, rest)
          else none
      else if c == '\\' && quote == '"' then
        match escape? block rest with
        | some (text, rest) =>
          (stringBody? quote block budget rest).map fun r => (text ++ r.1, r.2)
        | none => none
      else (stringBody? quote block budget rest).map fun r => (c :: r.1, r.2)

/-- A string, whether it may run over several lines, and what comes after it. A line feed right
after tripled opening quotes is no part of the string. -/
def string? (source : List Char) : Option (List Char × Bool × List Char) :=
  match source with
  | quote :: c :: rest =>
    if c != quote then
      (stringBody? quote false (rest.length + 2) (c :: rest)).map fun r => (r.1, false, r.2)
    else
      match rest with
      | d :: body =>
        if d != quote then some ([], false, rest)
        else
          let body := match body with
            | '\n' :: body => body
            | '\r' :: '\n' :: body => body
            | body => body
          (stringBody? quote true (body.length + 1) body).map fun r => (r.1, true, r.2)
      | [] => some ([], false, [])
  | _ => none

/-! ### Keys -/

/-- Reads a key and the blanks around it. A bare key holds no space within; a string over several
lines is no key. -/
def key? (source : List Char) : Except Trouble (Key × List Char) :=
  let (before, rest) := source.span isSpacing
  match rest with
  | '"' :: _ | '\'' :: _ =>
    match string? rest with
    | none => .error .malformed
    | some (_, true, rest) => .error (.unexpected rest)
    | some (text, false, behind) =>
      let (after, behind) := behind.span isSpacing
      .ok (⟨String.ofList text,
        before ++ rest.take (rest.length - behind.length - after.length) ++ after⟩, behind)
  | _ =>
    let (word, rest) := source.span fun c => isBareChar c || isSpacing c
    let name := Text.strip word
    if name.isEmpty || name.contains ' ' then .error .malformed
    else .ok (⟨String.ofList name, word⟩, rest)

def keys? : Nat → List Char → Except Trouble (List Key × List Char)
  | 0, _ => .error .malformed
  | budget + 1, source => do
    let (key, rest) ← key? source
    match rest with
    | '.' :: rest =>
      let (keys, rest) ← keys? budget rest
      return (key :: keys, rest)
    | rest => return ([key], rest)

end TypstMarkup.Toml
