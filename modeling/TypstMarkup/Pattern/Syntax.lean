import TypstMarkup.Pattern.Reading
import TypstMarkup.Value.Basic

/-!
The syntax of regular expressions. Reading one finds out whether it can be compiled, and which
options its source sets for the whole of it. What an expression matches is known by its width only,
which decides whether it may stand in a look-behind.
-/
namespace TypstMarkup.Pattern

inductive ItemKind where
  | place
  | repetition
  | other
deriving DecidableEq, Repr

structure Item where
  kind : ItemKind := .other
  width : Width := .one

/-- Items in a row; the last one may still be repeated. -/
structure Items where
  before : Width := .zero
  last : Option Item := none

namespace Items

def width (is : Items) : Width :=
  match is.last with
  | some i => is.before.add i.width
  | none => is.before

def push (is : Items) (i : Item) : Items :=
  { before := is.width, last := some i }

end Items

/-! ### Escapes -/

def isOctal (c : Char) : Bool :=
  '0' ≤ c && c ≤ '7'

def isHexadecimal (c : Char) : Bool :=
  c.isDigit || 'a' ≤ c && c ≤ 'f' || 'A' ≤ c && c ≤ 'F'

def badEscape {α : Type} (escape : List Char) : Parse α :=
  objectBack s!"bad escape {String.ofList escape}" escape.length

/-- The character with a number of exactly so many hexadecimal digits. -/
def numbered (c : Char) (count : Nat) : Parse Nat := do
  let digits ← takeWhile count isHexadecimal
  let escape := '\\' :: c :: digits
  if digits.length ≠ count then
    objectBack s!"incomplete escape {String.ofList escape}" escape.length
  let n := numberOf 16 digits
  if 0x10ffff < n then badEscape escape else return n

/-- The character with a name. Names are not looked up. -/
def named : Parse Nat := do
  if !(← takeIf '\x7b') then objectBack "missing \x7b" 0
  discard (takeUntil '\x7d' "character name")
  return 0xfffd

def lettered? (c : Char) : Option Nat :=
  match c with
  | 'a' => some 7
  | 'b' => some 8
  | 't' => some 9
  | 'n' => some 10
  | 'v' => some 11
  | 'f' => some 12
  | 'r' => some 13
  | _ => none

/-- The character that an escape stands for, unless a digit comes after the backslash. -/
def escaped (c : Char) : Parse Nat := do
  let overText := (← get).overText
  match lettered? c with
  | some n => return n
  | none =>
    if c = 'x' then numbered c 2
    else if c = 'u' && overText then numbered c 4
    else if c = 'U' && overText then numbered c 8
    else if c = 'N' && overText then named
    else if c.isAlpha then badEscape ['\\', c]
    else return c.toNat

/-- Objects to an octal number that is no byte. -/
def checkOctal (digits : List Char) : Parse Unit := do
  if 0o377 < numberOf 8 digits then
    objectBack ("octal escape value \\" ++ String.ofList digits ++ " outside of range 0-0o377")
      (digits.length + 1)

def checkLookBehind (group : Nat) : Parse Unit := do
  let s ← get
  if let some before := s.lookBehind then
    if ((s.groups[group - 1]?).join).isNone then objectBack "cannot refer to an open group" 0
    if before < group then
      objectBack "cannot refer to group defined in the same lookbehind subpattern" 0

/-- What a group referred to matches; the group has to be closed. -/
def reference (group length : Nat) : Parse Item := do
  match ((← get).groups[group - 1]?).join with
  | none => objectBack "cannot refer to an open group" length
  | some width =>
    checkLookBehind group
    return { width }

/-- An escape that starts with a digit: an octal number or a reference to a group. -/
def digitEscape (c : Char) : Parse Item := do
  if c = '0' then
    discard (takeWhile 2 isOctal)
    return {}
  let second ← takeWhile 1 Char.isDigit
  let third ← if second.length = 1 && (c :: second).all isOctal then takeWhile 1 isOctal
    else pure []
  let digits := c :: second ++ third
  if third.length = 1 then
    checkOctal digits
    return {}
  let group := numberOf 10 digits
  if group ≤ (← get).groups.length then reference group (digits.length + 1)
  else objectBack s!"invalid group reference {group}" digits.length

def escape (c : Char) : Parse Item := do
  if ['A', 'b', 'B', 'Z'].contains c then return { kind := .place, width := .zero }
  else if ['d', 'D', 's', 'S', 'w', 'W'].contains c then return {}
  else if c.isDigit then digitEscape c
  else
    discard (escaped c)
    return {}

/-! ### Sets -/

/-- The number of the character that a piece of a set stands for; a class of characters has none. -/
def member (piece : List Char) : Parse (Option Nat) := do
  match piece with
  | ['\\', c] =>
    if ['d', 'D', 's', 'S', 'w', 'W'].contains c then return none
    else if isOctal c then
      let digits := c :: (← takeWhile 2 isOctal)
      checkOctal digits
      return some (numberOf 8 digits)
    else if c.isDigit then badEscape ['\\', c]
    else return some (← escaped c)
  | piece => return piece.head?.map Char.toNat

def takeMember (start : Nat) : Parse (List Char) := do
  match ← take with
  | some piece => return piece
  | none => object "unterminated character set" start

/-- Reads a set behind its opening bracket, and whether anything was read of it before. -/
def readSet (start : Nat) : Nat → Bool → Parse Unit
  | 0, _ => return
  | fuel + 1, filled => do
    let first ← takeMember start
    if first = [']'] && filled then return
    let low ← member first
    if ← takeIf '-' then
      let second ← takeMember start
      if second = [']'] then return
      let high ← member second
      let ordered := match low, high with
        | some m, some n => m ≤ n
        | _, _ => false
      if !ordered then
        objectBack s!"bad character range {String.ofList first}-{String.ofList second}"
          (first.length + 1 + second.length)
    readSet start fuel true

/-! ### Repetitions -/

/-- The least number that is too large for a bound. -/
def repetitionLimit : Nat := 4294967295

def bound (digits : List Char) : Parse (Option Nat) := do
  if digits.isEmpty then return none
  if Based.mostDigits < digits.length then throw (.tooManyDigits digits.length)
  let n := numberOf 10 digits
  if repetitionLimit ≤ n then throw .tooManyRepetitions
  return some n

/-- The bounds of a repetition behind an opening brace. A brace without bounds stands for itself. -/
def bounds : Parse (Option (Nat × Option Nat)) := do
  let start ← get
  if (← peek) = some ['\x7d'] then return none
  let low ← takeDigits
  let high ← if ← takeIf ',' then takeDigits else pure low
  if !(← takeIf '\x7d') then
    set start
    return none
  let least := (← bound low).getD 0
  let most ← bound high
  if most.any fun most => most < least then
    object "min repeat greater than max repeat" start.position
  return some (least, most)

def repetition (c : Char) : Parse (Option (Nat × Option Nat)) :=
  match c with
  | '?' => return some (0, some 1)
  | '*' => return some (0, none)
  | '+' => return some (1, none)
  | _ => bounds

def repeated (is : Items) (least : Nat) (most : Option Nat) (start : Nat) : Parse Items := do
  match is.last with
  | none | some { kind := .place, .. } => object "nothing to repeat" start
  | some { kind := .repetition, .. } => object "multiple repeat" start
  | some i =>
    if !(← takeIf '?') then discard (takeIf '+')
    return { is with last := some { kind := .repetition, width := i.width.times least most } }

/-! ### Options -/

def optionLetters : List Char := ['i', 'L', 'm', 's', 'x', 'a', 't', 'u']

/-- The options that say what letters are; at most one of them may be given. -/
def letterOptions : List Char := ['a', 'L', 'u']

def turningOn (overText : Bool) (done : List Char) (c : Char) : Option String :=
  if overText && c = 'L' then
    some "bad inline flags: cannot use 'L' flag with a str pattern"
  else if !overText && c = 'u' then
    some "bad inline flags: cannot use 'u' flag with a bytes pattern"
  else if letterOptions.contains c && done.any fun d => d != c && letterOptions.contains d then
    some "bad inline flags: flags 'a', 'u' and 'L' are incompatible"
  else none

def turningOff (_ : List Char) (c : Char) : Option String :=
  if letterOptions.contains c then
    some "bad inline flags: cannot turn off flags 'a', 'u' and 'L'"
  else none

/-- Takes a letter of an option or a character that ends them. -/
def takeOption (stops : List Char) (missing : String) : Parse Char := do
  match ← take with
  | none => objectBack missing 0
  | some piece =>
    match piece with
    | [c] =>
      if stops.contains c || optionLetters.contains c then return c
      else objectBack (if Text.isLetter c then "unknown flag" else missing) 1
    | piece => objectBack missing piece.length

/-- Reads the letters of options from one on, up to a character that ends them. -/
def readOptions (refused : List Char → Char → Option String) (stops : List Char)
    (missing : String) : Nat → List Char → Char → Parse (List Char × Char)
  | 0, done, c => return (done, c)
  | fuel + 1, done, c => do
    if let some objection := refused done c then objectBack objection 0
    let next ← takeOption stops missing
    if stops.contains next then return (c :: done, next)
    else readOptions refused stops missing fuel (c :: done) next

/-- Reads options behind a question mark from their first character on: those that are turned on
and off for a group, or nothing if they are for the whole expression. -/
def options (c : Char) : Parse (Option (List Char × List Char)) := do
  let s ← get
  let fuel := s.pieces.length + 1
  let (on, stop) ← if c = '-' then pure ([], c)
    else readOptions (turningOn s.overText) [')', '-', ':'] "missing -, : or )" fuel [] c
  if stop = ')' then
    modify fun s => { s with options := on ++ s.options }
    return none
  if on.contains 't' then objectBack "bad inline flags: cannot turn on global flag" 1
  let off ← if stop = '-' then do
      let first ← takeOption [] "missing flag"
      let (off, _) ← readOptions turningOff [':'] "missing :" fuel [] first
      pure off
    else pure []
  if off.contains 't' then objectBack "bad inline flags: cannot turn off global flag" 1
  if on.any off.contains then objectBack "bad inline flags: flag turned on and off" 1
  return some (on, off)

/-! ### Groups -/

/-- A name in front of a terminator, which must be one that groups can have. -/
def groupName (terminator : Char) : Parse String := do
  let name ← takeUntil terminator "group name"
  if !Text.isIdentifier name then
    objectBack s!"bad character in group name {Text.quotedString (String.ofList name)}"
      (name.length + 1)
  return String.ofList name

def groupNamed (name : String) : Parse Nat := do
  match (← get).names.find? fun entry => entry.1 == name with
  | some entry => return entry.2
  | none => objectBack s!"unknown group name {Text.quotedString name}" (name.length + 1)

def openGroup (name : Option String) : Parse Nat := do
  modify fun s => { s with groups := s.groups ++ [none] }
  let s ← get
  let group := s.groups.length
  if let some name := name then
    if let some entry := s.names.find? fun entry => entry.1 == name then
      objectBack (s!"redefinition of group name {Text.quotedString name} as group {group}; " ++
        s!"was group {entry.2}") (name.length + 1)
    set { s with names := (name, group) :: s.names }
  return group

def condition : Parse Nat := do
  let name ← takeUntil ')' "group name"
  if Text.isIdentifier name then groupNamed (String.ofList name)
  else
    match (Based.ofText? 10 name).filter fun n => 0 ≤ n with
    | none =>
      objectBack s!"bad character in group name {Text.quotedString (String.ofList name)}"
        (name.length + 1)
    | some n =>
      let group := n.toNat
      if group = 0 then objectBack "bad group number" (name.length + 1)
      if 1073741823 ≤ group then
        objectBack s!"invalid group reference {group}" (name.length + 1)
      modify fun s =>
        { s with conditions := s.conditions ++ [(group, s.position - name.length - 1)] }
      return group

def skipComment (start : Nat) : Nat → Parse Unit
  | 0 => return
  | fuel + 1 => do
    match ← take with
    | none => object "missing ), unterminated comment" start
    | some piece => if piece = [')'] then return else skipComment start fuel

def skipLine : Parse Unit := do
  let rest := (← get).pieces.takeWhile fun piece => piece != ['\n']
  discard (takeMany (rest.length + 1))

def isSkipped (c : Char) : Bool :=
  [' ', '\t', '\n', '\r', '\x0b', '\x0c'].contains c

mutual

/-- Reads alternatives. The options for the whole expression may turn it verbose between them. -/
def alternatives : Nat → Bool → Bool → Bool → Parse Width
  | 0, _, _, _ => return .zero
  | fuel + 1, verbose, outermost, first => do
    let width ← items fuel verbose (outermost && first) {}
    if ← takeIf '|' then
      let options := (← get).options
      let verbose := if outermost then options.contains 'x' else verbose
      return width.either (← alternatives fuel verbose outermost false)
    else return width
termination_by structural fuel => fuel

/-- Reads items up to the end of an alternative. Options for the whole expression may come before
the first item of the first alternative. -/
def items : Nat → Bool → Bool → Items → Parse Width
  | 0, _, _, done => return done.width
  | fuel + 1, verbose, first, done => do
    match ← peek with
    | none | some ['|'] | some [')'] => return done.width
    | some piece =>
      discard take
      let start := (← get).position - 1
      match piece with
      | ['\\', c] => items fuel verbose first (done.push (← escape c))
      | ['('] =>
        let (item, verbose) ← group fuel verbose (first && done.last.isNone) start
        items fuel verbose first ((item.map done.push).getD done)
      | ['['] =>
        discard (takeIf '^')
        readSet start ((← get).pieces.length + 1) false
        items fuel verbose first (done.push {})
      | [c] =>
        if verbose && isSkipped c then items fuel verbose first done
        else if verbose && c = '#' then
          skipLine
          items fuel verbose first done
        else if ['*', '+', '?', '\x7b'].contains c then
          match ← repetition c with
          | some (least, most) =>
            items fuel verbose first (← repeated done least most start)
          | none => items fuel verbose first (done.push {})
        else if c = '^' || c = '$' then
          items fuel verbose first (done.push { kind := .place, width := .zero })
        else items fuel verbose first (done.push {})
      | _ => return done.width
termination_by structural fuel => fuel

def capture (fuel : Nat) (verbose : Bool) (name : Option String) (start : Nat) : Parse Item := do
  match fuel with
  | 0 => return {}
  | fuel + 1 =>
    let group ← openGroup name
    let width ← alternatives fuel verbose false true
    takeClosing start
    modify fun s => { s with groups := s.groups.set (group - 1) (some width) }
    return { width }
termination_by structural fuel

def enclosed (fuel : Nat) (verbose : Bool) (start : Nat) : Parse Item := do
  match fuel with
  | 0 => return {}
  | fuel + 1 =>
    let width ← alternatives fuel verbose false true
    takeClosing start
    return { width }
termination_by structural fuel

def lookBehind (fuel : Nat) (verbose : Bool) (start : Nat) : Parse Item := do
  match fuel with
  | 0 => return {}
  | fuel + 1 =>
    let outer := (← get).lookBehind
    modify fun s => { s with lookBehind := outer.or (some s.groups.length) }
    let width ← alternatives fuel verbose false true
    modify fun s => { s with lookBehind := outer }
    takeClosing start
    modify fun s => { s with lookBehinds := (start, width) :: s.lookBehinds }
    return { width := .zero }
termination_by structural fuel

def conditional (fuel : Nat) (verbose : Bool) (start : Nat) : Parse Item := do
  match fuel with
  | 0 => return {}
  | fuel + 1 =>
    checkLookBehind (← condition)
    let width ← items fuel verbose false {}
    let other ← if ← takeIf '|' then do
        let other ← items fuel verbose false {}
        if (← peek) = some ['|'] then
          objectBack "conditional backref with more than two branches" 0
        pure other
      else pure .zero
    takeClosing start
    return { width := width.either other }
termination_by structural fuel

/-- Reads what starts with an opening bracket: an item, or nothing for a comment or for options, and
whether the expression is verbose from here on. -/
def group (fuel : Nat) (verbose leading : Bool) (start : Nat) : Parse (Option Item × Bool) := do
  match fuel with
  | 0 => return (none, verbose)
  | fuel + 1 =>
    if !(← takeIf '?') then return (some (← capture fuel verbose none start), verbose)
    match ← take with
    | none => objectBack "unexpected end of pattern" 0
    | some ['P'] =>
      if ← takeIf '<' then
        let name ← groupName '>'
        return (some (← capture fuel verbose (some name) start), verbose)
      else if ← takeIf '=' then
        let name ← groupName ')'
        return (some (← reference (← groupNamed name) (name.length + 1)), verbose)
      else
        match ← take with
        | none => objectBack "unexpected end of pattern" 0
        | some piece =>
          objectBack s!"unknown extension ?P{String.ofList piece}" (piece.length + 2)
    | some ['#'] =>
      skipComment start ((← get).pieces.length + 1)
      return (none, verbose)
    | some ['='] | some ['!'] =>
      discard (enclosed fuel verbose start)
      return (some { width := .zero }, verbose)
    | some ['<'] =>
      match ← take with
      | none => objectBack "unexpected end of pattern" 0
      | some ['='] | some ['!'] => return (some (← lookBehind fuel verbose start), verbose)
      | some piece => objectBack s!"unknown extension ?<{String.ofList piece}" (piece.length + 2)
    | some ['('] => return (some (← conditional fuel verbose start), verbose)
    | some [':'] | some ['>'] => return (some (← enclosed fuel verbose start), verbose)
    | some piece =>
      match piece with
      | [c] =>
        if c = '-' || optionLetters.contains c then
          match ← options c with
          | none =>
            -- Options without a group hold for the whole expression, and must begin it.
            if !leading then object "global flags not at the start of the expression" start
            return (none, (← get).options.contains 'x')
          | some (on, off) =>
            let inside := (verbose || on.contains 'x') && !off.contains 'x'
            return (some (← enclosed fuel inside start), verbose)
        else objectBack s!"unknown extension ?{c}" 2
      | piece =>
        objectBack s!"unknown extension ?{String.ofList piece}" (piece.length + 1)
termination_by structural fuel

end

/-! ### Expressions -/

def checkLookBehinds (lookBehinds : List (Nat × Width)) : Except Objection Unit :=
  (lookBehinds.mergeSort fun a b => a.1 ≤ b.1).forM fun entry =>
    if repetitionLimit < entry.2.least then .error (.malformed "looks too much behind" none)
    else if entry.2.least ≠ entry.2.most then
      .error (.malformed "look-behind requires fixed-width pattern" none)
    else .ok ()

def checkOptions (overText : Bool) (options : List Char) : Except Objection Unit :=
  if overText then
    if options.contains 'a' && options.contains 'u' then
      .error (.options "ASCII and UNICODE flags are incompatible")
    else .ok ()
  else if options.contains 'u' then
    .error (.options "cannot use UNICODE flag with a bytes pattern")
  else if options.contains 'L' && options.contains 'a' then
    .error (.options "ASCII and LOCALE flags are incompatible")
  else .ok ()

/-- Reads an expression with options given for the whole of it, to which those of its source are
added. -/
def read (overText : Bool) (options : List Char) (source : List Char) :
    Except Objection (List Char) := do
  let pieces := pieces source
  checkEnd pieces 0
  let verbose := options.contains 'x'
  let (_, s) ← (alternatives (4 * pieces.length + 4) verbose true true).run
    { pieces, overText, options }
  checkOptions overText s.options
  if !s.pieces.isEmpty then throw (.malformed "unbalanced parenthesis" (some s.position))
  match s.conditions.find? fun entry => s.groups.length < entry.1 with
  | some (group, position) =>
    throw (.malformed s!"invalid group reference {group}" (some position))
  | none =>
    checkLookBehinds s.lookBehinds
    return s.options

end TypstMarkup.Pattern
