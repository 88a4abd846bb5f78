import TypstMarkup.CommandLine.Usage
import TypstMarkup.Text.Similar

/-!
Options among arguments. A long option may carry its value after an equals sign; short options share
a dash, and the first of them that takes a value takes the rest. Two dashes alone end the options.
-/
namespace TypstMarkup.CommandLine

structure Options (α : Type) where
  long : List (String × α)
  short : List (Char × α) := []
  takesValue : α → Bool
  /-- Whether options may follow arguments. -/
  mixed : Bool := true
  /-- Whether unknown options count as arguments. -/
  tolerant : Bool := false

/-- What a command line holds: options with their values in order, and arguments. -/
structure Given (α : Type) where
  options : List (α × String) := []
  arguments : List String := []

namespace Given

variable {α : Type}

def option (g : Given α) (o : α) (value : String) : Given α :=
  { g with options := (o, value) :: g.options }

def argument (g : Given α) (arguments : List String) : Given α :=
  { g with arguments := arguments ++ g.arguments }

variable [DecidableEq α]

def has (g : Given α) (o : α) : Bool :=
  g.options.any fun entry => entry.1 = o

def count (g : Given α) (o : α) : Nat :=
  g.options.countP fun entry => entry.1 = o

def values (g : Given α) (o : α) : List String :=
  (g.options.filter fun entry => entry.1 = o).map Prod.snd

/-- The value an option is given last. -/
def last? (g : Given α) (o : α) : Option String :=
  (g.values o).getLast?

end Given

namespace Options

variable {α : Type}

def long? (os : Options α) (name : String) : Option α :=
  (os.long.find? fun entry => entry.1 == name).map Prod.snd

def similar (os : Options α) (name : String) : List String :=
  Text.similar name (os.long.map Prod.fst)

def short? (os : Options α) (letter : Char) : Option α :=
  (os.short.find? fun entry => entry.1 == letter).map Prod.snd

/-- What the letters after one dash are: options without values, letters that are no options, and
perhaps an option with the rest as its value. -/
structure Letters (α : Type) where
  flags : List α := []
  unknown : List Char := []
  valued : Option (Char × α × List Char) := none

def letters (os : Options α) : List Char → Except Misuse (Letters α)
  | [] => .ok {}
  | letter :: rest =>
    match os.short? letter with
    | some o =>
      if os.takesValue o then .ok { valued := some (letter, o, rest) }
      else (os.letters rest).map fun l => { l with flags := o :: l.flags }
    | none =>
      if os.tolerant then
        (os.letters rest).map fun l => { l with unknown := letter :: l.unknown }
      else .error (.unknownOption (String.ofList ['-', letter]) [])

/-- Splits an argument at its first equals sign. -/
def splitValue (argument : List Char) : List Char × Option (List Char) :=
  let name := argument.takeWhile (· != '=')
  (name, (argument.drop name.length).tail?)

def looksLikeOption (argument : List Char) : Bool :=
  argument.head? == some '-' && 1 < argument.length

def read (os : Options α) : List String → Except Misuse (Given α)
  | [] => .ok {}
  | word :: rest =>
    let source := word.toList
    if word = "--" then .ok { arguments := rest }
    else if looksLikeOption source then
      let (name, value) := splitValue source
      let name := String.ofList name
      match os.long? name with
      | some o =>
        if os.takesValue o then
          match value, rest with
          | some value, rest => (os.read rest).map fun g => g.option o (String.ofList value)
          | none, value :: rest => (os.read rest).map fun g => g.option o value
          | none, [] => .error (.valueMissing name)
        else if value.isSome then .error (.valueRefused name)
        else (os.read rest).map fun g => g.option o ""
      | none =>
        if source.take 2 = ['-', '-'] then
          if os.tolerant then (os.read rest).map fun g => g.argument [word]
          else .error (.unknownOption name (os.similar name))
        else do
          -- Without a rest of its word, an option with a value takes the next word.
          let l ← os.letters (source.drop 1)
          let front (g : Given α) : Given α :=
            l.flags.foldr (fun o g => g.option o "")
              (if l.unknown.isEmpty then g else g.argument [String.ofList ('-' :: l.unknown)])
          match l.valued, rest with
          | none, rest => (os.read rest).map front
          | some (_, o, c :: value), rest =>
            (os.read rest).map fun g => front (g.option o (String.ofList (c :: value)))
          | some (_, o, []), value :: rest => (os.read rest).map fun g => front (g.option o value)
          | some (letter, _, []), [] => throw (.valueMissing (String.ofList ['-', letter]))
    else if os.mixed then (os.read rest).map fun g => g.argument [word]
    else .ok { arguments := word :: rest }

end Options

end TypstMarkup.CommandLine
