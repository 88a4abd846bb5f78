import TypstMarkup.Text.Identifier
import TypstMarkup.Expression.Syntax

/-!
Lexemes of expressions. Line ends count only outside brackets, comments run to the end of their
line, and a backslash at the end of a line joins it with the next. A number may be followed
directly by a keyword, but by no other letter.
-/
namespace TypstMarkup.Expression

inductive Token where
  | name (id : String)
  | number (v : Value)
  | text (s : List Char)
  | bytes (data : List UInt8)
  /-- A text with fields, its body as it is written. -/
  | formatted (raw : Bool) (body : List Char)
  | symbol (s : String)
  | lineEnd

structure Lexeme where
  token : Token
  line : Nat

def unifyLines : List Char → List Char
  | [] => []
  | '\r' :: '\n' :: rest => '\n' :: unifyLines rest
  | '\r' :: rest => '\n' :: unifyLines rest
  | c :: rest => c :: unifyLines rest

/-- Whether a character may belong to a name, judged before the name is complete. -/
def isNameChar (c : Char) : Bool :=
  c.isAlphanum || c == '_' || 0x80 ≤ c.toNat

/-! ### Numbers -/

/-- Reads digits that single underscores may separate; `open` says whether a digit must follow. -/
def digitRun (isDigit : Char → Bool) (needed : Bool) : List Char → Option (List Char × List Char)
  | [] => if needed then none else some ([], [])
  | c :: rest =>
    if isDigit c then (digitRun isDigit false rest).map fun r => (c :: r.1, r.2)
    else if needed then none
    else if c = '_' then digitRun isDigit true rest
    else some ([], c :: rest)

def endsNumber : List Char → Bool
  | 'a' :: 'n' :: 'd' :: _ | 'e' :: 'l' :: 's' :: 'e' :: _ | 'f' :: 'o' :: 'r' :: _
  | 'i' :: 'f' :: _ | 'i' :: 'n' :: _ | 'i' :: 's' :: _ | 'o' :: 'r' :: _
  | 'n' :: 'o' :: 't' :: _ => true
  | c :: _ => !isNameChar c
  | [] => true

def hexValue? (c : Char) : Option Nat :=
  if c.isDigit then some (c.toNat - 0x30)
  else if 'a' ≤ c && c ≤ 'f' then some (c.toNat - 0x61 + 10)
  else if 'A' ≤ c && c ≤ 'F' then some (c.toNat - 0x41 + 10)
  else none

def numberIn (base : Nat) (digits : List Char) : Nat :=
  digits.foldl (fun n c => n * base + (hexValue? c).getD 0) 0

/-- Reads the digits of a number in a base other than ten. -/
def readBased (base : Nat) (isDigit : Char → Bool) (source : List Char) :
    Option (Value × List Char) := do
  let source := match source with
    | '_' :: rest => rest
    | source => source
  let (digits, rest) ← digitRun isDigit true source
  guard (endsNumber rest)
  return (.int (numberIn base digits), rest)

/-- Reads an exponent part, if one follows. The outer value is absent for a malformed one. -/
def readExponentPart (source : List Char) : Option (Option (Int × List Char)) :=
  match source with
  | e :: rest =>
    if e = 'e' || e = 'E' then
      match rest with
      | '+' :: rest => do
        let (digits, rest) ← digitRun Char.isDigit true rest
        return some (numberIn 10 digits, rest)
      | '-' :: rest => do
        let (digits, rest) ← digitRun Char.isDigit true rest
        return some (-(numberIn 10 digits : Int), rest)
      | c :: _ =>
        if c.isDigit then do
          let (digits, rest) ← digitRun Char.isDigit true rest
          return some (numberIn 10 digits, rest)
        else some none
      | [] => some none
    else some none
  | [] => some none

/-- Finishes a number that has a point, an exponent or a mark of imaginary numbers. -/
def finishFloat (digits : List Char) (exponent : Int) (source : List Char) :
    Option (Value × List Char) :=
  let x := Binary64.ofDecimal false (numberIn 10 digits) exponent
  match source with
  | c :: rest =>
    if c = 'j' || c = 'J' then
      if endsNumber rest then some (.complex (.zero false) x, rest) else none
    else if endsNumber source then some (.float x, source)
    else none
  | [] => some (.float x, [])

def readDecimal (source : List Char) : Option (Value × List Char) := do
  let (whole, rest) ← match source with
    | '.' :: _ => some ([], source)
    | _ => digitRun Char.isDigit true source
  match rest with
  | '.' :: rest =>
    let (part, rest) ← match rest with
      | c :: _ => if c.isDigit then digitRun Char.isDigit true rest else some ([], rest)
      | [] => some ([], [])
    match ← readExponentPart rest with
    | some (exponent, rest) => finishFloat (whole ++ part) (exponent - part.length) rest
    | none => finishFloat (whole ++ part) (-part.length) rest
  | _ =>
    match ← readExponentPart rest with
    | some (exponent, rest) => finishFloat whole exponent rest
    | none =>
      match rest with
      | 'j' :: _ | 'J' :: _ => finishFloat whole 0 rest
      | _ =>
        guard (endsNumber rest)
        guard (whole.head? ≠ some '0' || whole.all (· == '0'))
        guard (whole.length ≤ 4300)
        return (.int (numberIn 10 whole), rest)

def readNumber (source : List Char) : Option (Value × List Char) :=
  match source with
  | '0' :: c :: rest =>
    if c = 'x' || c = 'X' then readBased 16 (fun d => (hexValue? d).isSome) rest
    else if c = 'o' || c = 'O' then readBased 8 (fun d => '0' ≤ d && d ≤ '7') rest
    else if c = 'b' || c = 'B' then readBased 2 (fun d => d == '0' || d == '1') rest
    else readDecimal source
  | _ => readDecimal source

/-! ### Texts -/

def singleBody (quote : Char) : List Char → Option (List Char × List Char)
  | [] => none
  | '\\' :: c :: rest => (singleBody quote rest).map fun r => ('\\' :: c :: r.1, r.2)
  | c :: rest =>
    if c = quote then some ([], rest)
    else if c = '\n' then none
    else (singleBody quote rest).map fun r => (c :: r.1, r.2)

def tripleBody (quote : Char) : List Char → Option (List Char × List Char)
  | [] => none
  | '\\' :: c :: rest => (tripleBody quote rest).map fun r => ('\\' :: c :: r.1, r.2)
  | c :: rest =>
    if c = quote && (quote :: quote :: []).isPrefixOf rest then some ([], rest.drop 2)
    else (tripleBody quote rest).map fun r => (c :: r.1, r.2)

def readBody (quote : Char) (source : List Char) : Option (List Char × List Char) :=
  match source with
  | a :: b :: rest =>
    if a = quote then
      if b = quote then tripleBody quote rest else some ([], b :: rest)
    else singleBody quote source
  | _ => singleBody quote source

def simpleEscape? (c : Char) : Option Char :=
  match c with
  | '\\' => some '\\'
  | '\'' => some '\''
  | '"' => some '"'
  | 'a' => some '\x07'
  | 'b' => some '\x08'
  | 'f' => some '\x0c'
  | 'n' => some '\n'
  | 'r' => some '\r'
  | 't' => some '\t'
  | 'v' => some '\x0b'
  | _ => none

/-- The number of exactly `count` hexadecimal digits at the start, and the rest. -/
def hexEscape? (count : Nat) (source : List Char) : Option (Nat × List Char) :=
  let digits := source.take count
  if digits.length = count && digits.all (fun d => (hexValue? d).isSome) then
    some (numberIn 16 digits, source.drop count)
  else none

/-- The number of up to three octal digits at the start, and the rest. -/
def octalEscape (source : List Char) : Nat × List Char :=
  let digits := (source.take 3).takeWhile fun d => '0' ≤ d && d ≤ '7'
  (numberIn 8 digits, source.drop digits.length)

/-- A character by code point; surrogates have no character and are replaced. -/
def charAt? (point : Nat) : Option Char :=
  if 0x10ffff < point then none
  else if 0xd800 ≤ point && point ≤ 0xdfff then some '\ufffd'
  else some (Char.ofNat point)

/-- Replaces the escapes of a text. Unknown escapes stand for themselves. -/
def decodeText : Nat → List Char → Option (List Char)
  | _, [] => some []
  | 0, _ => none
  | fuel + 1, '\\' :: c :: rest =>
    let hex (count : Nat) : Option (List Char) := do
      let (point, rest) ← hexEscape? count rest
      return (← charAt? point) :: (← decodeText fuel rest)
    if c = '\n' then decodeText fuel rest
    else if c = 'x' then hex 2
    else if c = 'u' then hex 4
    else if c = 'U' then hex 8
    else if c = 'N' then
      match rest with
      | '{' :: rest =>
        let name := rest.takeWhile (· != '}')
        match rest.drop name.length with
        | '}' :: rest =>
          if name.isEmpty then none else (decodeText fuel rest).map ('\ufffd' :: ·)
        | _ => none
      | _ => none
    else if '0' ≤ c && c ≤ '7' then do
      let (point, rest) := octalEscape (c :: rest)
      return (← charAt? point) :: (← decodeText fuel rest)
    else
      match simpleEscape? c with
      | some e => (decodeText fuel rest).map (e :: ·)
      | none => (decodeText fuel rest).map ('\\' :: c :: ·)
  | fuel + 1, c :: rest => (decodeText fuel rest).map (c :: ·)

def decodeBytes : Nat → List Char → Option (List UInt8)
  | _, [] => some []
  | 0, _ => none
  | fuel + 1, '\\' :: c :: rest =>
    if c = '\n' then decodeBytes fuel rest
    else if c = 'x' then do
      let (byte, rest) ← hexEscape? 2 rest
      return UInt8.ofNat byte :: (← decodeBytes fuel rest)
    else if '0' ≤ c && c ≤ '7' then do
      let (byte, rest) := octalEscape (c :: rest)
      return UInt8.ofNat byte :: (← decodeBytes fuel rest)
    else
      match simpleEscape? c with
      | some e => (decodeBytes fuel rest).map (UInt8.ofNat e.toNat :: ·)
      | none => (decodeBytes fuel rest).map (0x5c :: UInt8.ofNat c.toNat :: ·)
  | fuel + 1, c :: rest => (decodeBytes fuel rest).map (UInt8.ofNat c.toNat :: ·)

structure TextMarks where
  bytes : Bool := false
  raw : Bool := false
  unicode : Bool := false
  formatted : Bool := false

def textMarks? (letters : List Char) : Option TextMarks :=
  letters.foldlM (fun m c =>
    let c := c.toLower
    if c = 'b' && !(m.bytes || m.unicode || m.formatted) then some { m with bytes := true }
    else if c = 'u' && !(m.bytes || m.unicode || m.raw || m.formatted) then
      some { m with unicode := true }
    else if c = 'r' && !(m.raw || m.unicode) then some { m with raw := true }
    else if c = 'f' && !(m.formatted || m.bytes || m.unicode) then some { m with formatted := true }
    else none) {}

def textToken? (marks : TextMarks) (body : List Char) : Option Token :=
  if marks.formatted then some (.formatted marks.raw body)
  else if marks.bytes then
    if body.any fun c => 0x80 ≤ c.toNat then none
    else if marks.raw then some (.bytes (body.map fun c => UInt8.ofNat c.toNat))
    else (decodeBytes body.length body).map .bytes
  else if marks.raw then some (.text body)
  else (decodeText body.length body).map .text

/-! ### Lexemes -/

def symbols : List String :=
  ["**=", "//=", ">>=", "<<=", "...", "==", "!=", "<=", ">=", "->", "+=", "-=", "*=", "/=", "%=",
    "@=", "&=", "|=", "^=", "**", "//", "<<", ">>", ":=", "<>", "+", "-", "*", "/", "%", "@", "&",
    "|", "^", "~", "<", ">", "(", ")", "[", "]", "\x7b", "\x7d", ",", ":", ".", ";", "="]

/-- The longest symbol at the start of a source. -/
def readSymbol? (source : List Char) : Option String :=
  symbols.find? fun s => s.toList.isPrefixOf source

def closingBracket? (s : String) : Option String :=
  if s = "(" then some ")" else if s = "[" then some "]"
  else if s = "\x7b" then some "\x7d" else none

def isClosing (s : String) : Bool :=
  s = ")" || s = "]" || s = "\x7d"

def bracketLimit : Nat := 200

/-- Where a lexer stands: the closing brackets it waits for, the line, and whether it is at the
start of a logical line and how far that line is indented. -/
structure Place where
  brackets : List String := []
  line : Nat := 1
  atStart : Bool := true
  indented : Bool := false

/-- The lexemes of a source, or nothing if it has none. A budget of its length suffices. -/
def lexFrom : Nat → Place → List Char → Option (List Lexeme)
  | 0, _, _ => none
  | _ + 1, place, [] =>
    if place.brackets.isEmpty && !(place.atStart && place.indented) then some [] else none
  | fuel + 1, place, c :: rest =>
    let within := !place.brackets.isEmpty
    if c = ' ' || c = '\t' then
      lexFrom fuel { place with indented := place.indented || place.atStart } rest
    else if c = '\x0c' then
      lexFrom fuel { place with indented := place.indented && !place.atStart } rest
    else if c = '#' then lexFrom fuel place (rest.dropWhile (· != '\n'))
    else if c = '\n' then
      -- In brackets, and behind a line without lexemes, a line end is a blank.
      let next := { place with line := place.line + 1, indented := false }
      if within then lexFrom fuel next rest
      else if place.atStart then lexFrom fuel next rest
      else (lexFrom fuel { next with atStart := true } rest).map (⟨.lineEnd, place.line⟩ :: ·)
    else if c = '\\' then
      match rest with
      | '\n' :: d :: rest => lexFrom fuel { place with line := place.line + 1 } (d :: rest)
      | _ => none
    else if place.atStart && place.indented && !within then none
    else
      let place := { place with atStart := false }
      let after (token : Token) (consumed : List Char) (rest : List Char) :
          Option (List Lexeme) :=
        (lexFrom fuel { place with line := place.line + consumed.count '\n' } rest).map
          (⟨token, place.line⟩ :: ·)
      let startsNumber := c.isDigit || c = '.' && rest.head?.any Char.isDigit
      if startsNumber then do
        let (v, rest) ← readNumber (c :: rest)
        after (.number v) [] rest
      else if c = '\'' || c = '"' then do
        let (body, rest) ← readBody c rest
        after (← textToken? {} body) body rest
      else if isNameChar c then do
        let word := c :: rest.takeWhile isNameChar
        let rest := rest.dropWhile isNameChar
        match rest with
        | q :: more =>
          if q = '\'' || q = '"' then
            -- A name directly before a quote may be the marks of a text.
            match textMarks? word with
            | some marks =>
              let (body, rest) ← readBody q more
              after (← textToken? marks body) body rest
            | none =>
              guard (Text.isIdentifier word)
              after (.name (String.ofList word)) [] rest
          else
            guard (Text.isIdentifier word)
            after (.name (String.ofList word)) [] rest
        | [] =>
          guard (Text.isIdentifier word)
          after (.name (String.ofList word)) [] rest
      else do
        let s ← readSymbol? (c :: rest)
        let rest := (c :: rest).drop s.length
        let brackets ←
          match closingBracket? s with
          | some close =>
            if place.brackets.length < bracketLimit then some (close :: place.brackets) else none
          | none =>
            if isClosing s then
              match place.brackets with
              | open_ :: others => if open_ = s then some others else none
              | [] => none
            else some place.brackets
        (lexFrom fuel { place with brackets := brackets } rest).map (⟨.symbol s, place.line⟩ :: ·)

/-- The lexemes of a source. The source may hold no null character. -/
def lex? (source : List Char) : Option (List Lexeme) :=
  let source := unifyLines source
  if source.contains '\x00' then none else lexFrom (source.length + 1) {} source

end TypstMarkup.Expression
