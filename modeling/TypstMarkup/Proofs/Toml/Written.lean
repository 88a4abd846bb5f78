import TypstMarkup.Text.Blank
import TypstMarkup.Toml.Write
import TypstMarkup.Proofs.Text.Hexadecimal

/-!
What is written for single values and for lists of texts. Numbers and truth values are words without
quotes, brackets and blanks; a text stands between double quotes, each of its characters written as
itself, as a short escape or by its code.
-/
namespace TypstMarkup.Toml

/-- A single value, or a list of texts. -/
inductive Simple : Node → Prop
  | text (s : String) : Simple (.text s)
  | integer (n : Int) : Simple (.integer n)
  | float (x : Binary64) : Simple (.float x)
  | boolean (b : Bool) : Simple (.boolean b)
  | texts (items : List String) : Simple (.array (items.map .text))

theorem Simple.isPlain {node : Node} (simple : Simple node) : node.isPlain = true := by
  cases simple with
  | texts items => cases items <;> rfl
  | _ => rfl

/-! ### Words -/

/-- Whether a character may stand in a number or a truth value. -/
def isWordChar (c : Char) : Bool :=
  c.isAlphanum || c == '.' || c == '+' || c == '-'

theorem ne_of_isWordChar {c d : Char} (word : isWordChar c = true) (other : isWordChar d = false) :
    c ≠ d := by
  rintro rfl
  rw [word] at other
  cases other

theorem isWordChar_of_isDigit {c : Char} (digit : c.isDigit = true) : isWordChar c = true := by
  simp [isWordChar, Char.isAlphanum, digit]

theorem isDigit_of_mem_digitText {n : Nat} {c : Char} (member : c ∈ Binary64.digitText n) :
    c.isDigit = true := by
  rw [Binary64.digitText, Nat.toString_eq_repr, Nat.toList_repr] at member
  exact Nat.isDigit_of_mem_toDigits (by decide) (by decide) member

theorem isWordChar_of_mem_digitText {n : Nat} {c : Char} (member : c ∈ Binary64.digitText n) :
    isWordChar c = true :=
  isWordChar_of_isDigit (isDigit_of_mem_digitText member)

theorem isWordChar_of_mem_integer {n : Int} {c : Char} (member : c ∈ (toString n).toList) :
    isWordChar c = true := by
  rw [Int.toString_eq_repr, Int.repr_eq_if] at member
  split at member
  · exact isWordChar_of_mem_digitText member
  · rw [String.toList_append] at member
    rcases List.mem_append.1 member with sign | later
    · rw [List.mem_singleton.1 sign]
      rfl
    · exact isWordChar_of_mem_digitText later

theorem isWordChar_of_mem_exponentText {e : Int} {c : Char}
    (member : c ∈ Binary64.exponentText e) : isWordChar c = true := by
  rw [Binary64.exponentText, Binary64.padFront] at member
  rcases List.mem_cons.1 member with rfl | member
  · rfl
  rcases List.mem_cons.1 member with rfl | member
  · split <;> rfl
  rcases List.mem_append.1 member with zeros | digits
  · rw [List.eq_of_mem_replicate zeros]
    rfl
  · exact isWordChar_of_mem_digitText digits

theorem isWordChar_of_mem_positional {digits : List Char} {point : Int} {c : Char}
    (words : ∀ d ∈ digits, isWordChar d = true)
    (member : c ∈ Binary64.positional true digits point) : isWordChar c = true := by
  have zero {count : Nat} (zeros : c ∈ List.replicate count '0') : isWordChar c = true := by
    rw [List.eq_of_mem_replicate zeros]
    rfl
  unfold Binary64.positional at member
  split at member
  · rcases List.mem_cons.1 member with rfl | member
    · rfl
    rcases List.mem_cons.1 member with rfl | member
    · rfl
    rcases List.mem_append.1 member with zeros | inside
    · exact zero zeros
    · exact words c inside
  split at member
  · rcases List.mem_append.1 member with member | point
    · rcases List.mem_append.1 member with inside | zeros
      · exact words c inside
      · exact zero zeros
    · rw [if_pos rfl] at point
      exact List.all_eq_true.1 (by decide : ['.', '0'].all isWordChar = true) c point
  · rcases List.mem_append.1 member with before | member
    · exact words c (List.mem_of_mem_take before)
    rcases List.mem_cons.1 member with rfl | behind
    · rfl
    · exact words c (List.mem_of_mem_drop behind)

theorem isWordChar_of_mem_scientific {digits : List Char} {e : Int} {c : Char}
    (words : ∀ d ∈ digits, isWordChar d = true) (member : c ∈ Binary64.scientific digits e) :
    isWordChar c = true := by
  unfold Binary64.scientific at member
  split at member
  · exact isWordChar_of_mem_exponentText member
  · rcases List.mem_cons.1 member with rfl | member
    · exact words c List.mem_cons_self
    · exact isWordChar_of_mem_exponentText member
  · rcases List.mem_cons.1 member with rfl | member
    · exact words c List.mem_cons_self
    rcases List.mem_cons.1 member with rfl | member
    · rfl
    rcases List.mem_append.1 member with inside | member
    · exact words c (List.mem_cons_of_mem _ inside)
    · exact isWordChar_of_mem_exponentText member

theorem isWordChar_of_mem_float {x : Binary64} {c : Char} (member : c ∈ x.written true) :
    isWordChar c = true := by
  have magnitude {m : Nat} {e : Int} (inside : c ∈ Binary64.magnitudeText true m e) :
      isWordChar c = true := by
    unfold Binary64.magnitudeText at inside
    dsimp only at inside
    split at inside
    · exact isWordChar_of_mem_positional (fun _ => isWordChar_of_mem_digitText) inside
    · exact isWordChar_of_mem_scientific (fun _ => isWordChar_of_mem_digitText) inside
  cases x with
  | finite negative m e =>
    rw [Binary64.written] at member
    split at member
    · rcases List.mem_cons.1 member with rfl | inside
      · rfl
      · exact magnitude inside
    · exact magnitude member
  | infinite negative =>
    cases negative with
    | false => exact List.all_eq_true.1 (by decide : ['i', 'n', 'f'].all isWordChar = true) c member
    | true =>
      exact List.all_eq_true.1 (by decide : ['-', 'i', 'n', 'f'].all isWordChar = true) c member
  | nan _ => exact List.all_eq_true.1 (by decide : ['n', 'a', 'n'].all isWordChar = true) c member

/-! ### Basic strings -/

/-- How a character is written between double quotes. -/
inductive Escaped (c : Char) : List Char → Prop
  | itself (noQuote : c ≠ '"') (noSlash : c ≠ '\\') (noControl : isControl c = false) :
    Escaped c [c]
  | short {letter : Char}
    (known : (letter, c) ∈ [('b', '\x08'), ('t', '\t'), ('n', '\n'), ('f', '\x0c'), ('r', '\r'),
      ('"', '"'), ('\\', '\\')]) : Escaped c ['\\', letter]
  | code (control : isControl c = true) : Escaped c ('\\' :: 'u' :: Text.hexDigits 4 c.toNat)

theorem escaped_basicChar (c : Char) : Escaped c (basicChar c) := by
  unfold basicChar
  split
  · exact .short (by decide)
  · exact .short (by decide)
  · exact .short (by decide)
  · exact .short (by decide)
  · exact .short (by decide)
  · exact .short (by decide)
  · exact .short (by decide)
  · rename_i noQuote noSlash
    split
    · rename_i control
      exact .code control
    · rename_i noControl
      exact .itself noQuote noSlash (Bool.not_eq_true _ ▸ noControl)

/-- Four hexadecimal digits end in a character that is neither a quote nor a backslash. -/
theorem exists_last_hexDigits (n : Nat) :
    ∃ digits last, Text.hexDigits 4 n = digits ++ [last] ∧ last ≠ '"' ∧ last ≠ '\\' := by
  refine ⟨Text.hexDigits 3 (n / 16), Nat.digitChar (n % 16), rfl, ?_⟩
  have digits : ∀ d < 16, Nat.digitChar d ≠ '"' ∧ Nat.digitChar d ≠ '\\' := by decide
  exact digits (n % 16) (Nat.mod_lt _ (by decide))

/-! ### Keys -/

theorem isBareChar_cases {c : Char} (bare : isBareChar c = true) :
    c.isAlphanum = true ∨ c = '_' ∨ c = '-' := by
  simpa [isBareChar, or_assoc] using bare

theorem ne_of_isBareChar {c d : Char} (bare : isBareChar c = true) (other : isBareChar d = false) :
    c ≠ d := by
  rintro rfl
  rw [bare] at other
  cases other

theorem toNat_of_isAlphanum {c : Char} (letter : c.isAlphanum = true) :
    48 ≤ c.toNat ∧ c.toNat ≤ 57 ∨ 65 ≤ c.toNat ∧ c.toNat ≤ 90 ∨ 97 ≤ c.toNat ∧ c.toNat ≤ 122 := by
  have within {low high : UInt32} (between : low ≤ c.val ∧ c.val ≤ high) :
      low.toNat ≤ c.toNat ∧ c.toNat ≤ high.toNat :=
    between.imp UInt32.le_iff_toNat_le.1 UInt32.le_iff_toNat_le.1
  rcases Bool.or_eq_true_iff.1 letter with letter | digit
  · rcases Bool.or_eq_true_iff.1 letter with upper | lower
    · exact .inr (.inl (within (of_decide_eq_true upper)))
    · have ends := Bool.and_eq_true_iff.1 lower
      exact .inr (.inr (within (ends.imp of_decide_eq_true of_decide_eq_true)))
  · have ends := Bool.and_eq_true_iff.1 digit
    exact .inl (within (ends.imp of_decide_eq_true of_decide_eq_true))

theorem isBlank_of_isBareChar {c : Char} (bare : isBareChar c = true) :
    Text.isBlank c = false := by
  rcases isBareChar_cases bare with letter | rfl | rfl
  · have range := toNat_of_isAlphanum letter
    simp [Text.isBlank, Text.inRanges]
    omega
  · decide
  · decide

theorem writtenKey_bare {key : List Char} (filled : key ≠ [])
    (bare : ∀ c ∈ key, isBareChar c = true) : writtenKey key = key := by
  rw [writtenKey, List.isEmpty_eq_false_iff.2 filled, List.all_eq_true.2 bare]
  rfl

/-- A key is written bare or as a basic string. -/
theorem writtenKey_cases (key : List Char) :
    (writtenKey key = key ∧ key ≠ [] ∧ ∀ c ∈ key, isBareChar c = true) ∨
      writtenKey key = basicString key := by
  unfold writtenKey
  split
  · rename_i bare
    rw [Bool.and_eq_true, List.all_eq_true] at bare
    refine .inl ⟨rfl, ?_, bare.2⟩
    rintro rfl
    cases bare.1
  · exact .inr rfl

/-! ### Lists of texts -/

theorem writtenItems_texts (items : List String) :
    writtenItems (items.map .text) = (items.map String.toList).map basicString := by
  induction items with
  | nil => rfl
  | cons s items ih =>
    have noTable : ∀ entries, Node.text s = .table entries → False := fun _ same => by cases same
    rw [List.map_cons, writtenItems.eq_3 _ _ noTable, ih, writtenNode]
    rfl

theorem writtenNode_texts (items : List String) :
    writtenNode (.array (items.map .text)) =
      '[' :: [',', ' '].intercalate ((items.map String.toList).map basicString) ++ [']'] := by
  rw [writtenNode, writtenItems_texts]

/-! ### Lines -/

/-- A line of a written document: a blank one, the header of a table or an assignment. -/
inductive Statement where
  | gap
  | heading (path : List String)
  | setting (key : String) (node : Node)

namespace Statement

/-- The text of a line, up to its end. -/
def line : Statement → List Char
  | gap => []
  | heading path => '[' :: pathText (path.map Key.ofName) ++ [']']
  | setting key node => writtenKey key.toList ++ [' ', '=', ' '] ++ writtenNode node

end Statement

def linesText (statements : List Statement) : List Char :=
  statements.flatMap fun s => s.line ++ ['\n']

/-- A path of keys that all stand bare. -/
structure Named (path : List String) : Prop where
  ne_nil : pathText (path.map Key.ofName) ≠ []
  isBareChar : ∀ c ∈ pathText (path.map Key.ofName), isBareChar c = true ∨ c = '.'

theorem named_iff (path : List String) : Named path ↔ pathText (path.map Key.ofName) ≠ [] ∧
    (pathText (path.map Key.ofName)).all (fun c => Toml.isBareChar c || c == '.') = true := by
  rw [List.all_eq_true]
  simp only [Bool.or_eq_true, beq_iff_eq]
  exact ⟨fun named => ⟨named.ne_nil, named.isBareChar⟩, fun named => ⟨named.1, named.2⟩⟩

instance (path : List String) : Decidable (Named path) :=
  decidable_of_iff _ (named_iff path).symm

/-- A single key stands bare as a path if it stands bare by itself. -/
theorem Named.bare {name : String} (named : Named [name]) :
    name.toList ≠ [] ∧ ∀ c ∈ name.toList, Toml.isBareChar c = true := by
  rcases writtenKey_cases name.toList with ⟨-, filled, bare⟩ | same
  · exact ⟨filled, bare⟩
  · have quoted : '"' ∈ pathText ([name].map Key.ofName) := by
      rw [List.map_singleton, pathText, List.map_singleton, List.intercalate_singleton, Key.ofName,
        same]
      exact List.mem_cons_self
    rcases named.isBareChar '"' quoted with bare | point
    · cases bare
    · cases point

/-- A line that opens a table under bare keys, or sets a simple value. -/
inductive Statement.Plain : Statement → Prop
  | gap : Plain .gap
  | heading {path : List String} (named : Named path) : Plain (.heading path)
  | setting (key : String) {node : Node} (simple : Simple node) : Plain (.setting key node)

/-! ### No controls -/

theorem mem_intercalate {α : Type} {a : α} {separator : List α} {parts : List (List α)}
    (member : a ∈ separator.intercalate parts) : (∃ part ∈ parts, a ∈ part) ∨ a ∈ separator := by
  induction parts with
  | nil => cases member
  | cons part rest ih =>
    cases rest with
    | nil =>
      rw [List.intercalate_singleton] at member
      exact .inl ⟨part, List.mem_singleton_self part, member⟩
    | cons next rest =>
      rw [List.intercalate_cons_cons, List.mem_append, List.mem_append] at member
      rcases member with (first | between) | later
      · exact .inl ⟨part, List.mem_cons_self, first⟩
      · exact .inr between
      · exact (ih later).imp_left fun ⟨part, listed, inside⟩ =>
          ⟨part, List.mem_cons_of_mem _ listed, inside⟩

theorem isControl_of_all {text : List Char} (free : text.all (!isControl ·) = true) :
    ∀ c ∈ text, isControl c = false := by
  intro c member
  simpa using List.all_eq_true.1 free c member

theorem isControl_of_isAlphanum {c : Char} (letter : c.isAlphanum = true) :
    isControl c = false := by
  have range := toNat_of_isAlphanum letter
  simp [isControl]
  omega

theorem isControl_of_isBareChar {c : Char} (bare : isBareChar c = true) : isControl c = false := by
  rcases isBareChar_cases bare with letter | rfl | rfl
  · exact isControl_of_isAlphanum letter
  · decide
  · decide

theorem isControl_of_isWordChar {c : Char} (word : isWordChar c = true) : isControl c = false := by
  have kinds : ((c.isAlphanum = true ∨ c = '.') ∨ c = '+') ∨ c = '-' := by
    simpa [isWordChar] using word
  rcases kinds with ((letter | rfl) | rfl) | rfl
  · exact isControl_of_isAlphanum letter
  · decide
  · decide
  · decide

theorem Escaped.isControl {c d : Char} {written : List Char} (escaped : Escaped c written)
    (member : d ∈ written) : isControl d = false := by
  cases escaped with
  | itself _ _ noControl =>
    rw [List.mem_singleton.1 member]
    exact noControl
  | @short letter known =>
    have letters : ∀ entry ∈ [('b', '\x08'), ('t', '\t'), ('n', '\n'), ('f', '\x0c'), ('r', '\r'),
        ('"', '"'), ('\\', '\\')], Toml.isControl entry.1 = false := by decide
    rcases List.mem_cons.1 member with rfl | member
    · decide
    · rw [List.mem_singleton.1 member]
      exact letters _ known
  | code _ =>
    have digits : ∀ n < 16, Toml.isControl (Nat.digitChar n) = false := by decide
    rcases List.mem_cons.1 member with rfl | member
    · decide
    rcases List.mem_cons.1 member with rfl | member
    · decide
    obtain ⟨n, bound, rfl⟩ := Text.exists_digit_of_mem_hexDigits member
    exact digits n bound

theorem isControl_of_mem_basicString {c : Char} {text : List Char}
    (member : c ∈ basicString text) : isControl c = false := by
  rw [basicString, List.cons_append, List.mem_cons, List.mem_append, List.mem_singleton,
    List.mem_flatMap] at member
  rcases member with rfl | ⟨d, -, inside⟩ | rfl
  · decide
  · exact (escaped_basicChar d).isControl inside
  · decide

theorem isControl_of_mem_writtenKey {c : Char} {key : List Char}
    (member : c ∈ writtenKey key) : isControl c = false := by
  rcases writtenKey_cases key with ⟨same, -, bare⟩ | same
  · rw [same] at member
    exact isControl_of_isBareChar (bare c member)
  · rw [same] at member
    exact isControl_of_mem_basicString member

theorem isControl_of_mem_node {c : Char} {node : Node} (simple : Simple node)
    (member : c ∈ writtenNode node) : isControl c = false := by
  cases simple with
  | text s =>
    rw [writtenNode] at member
    exact isControl_of_mem_basicString member
  | integer n =>
    rw [writtenNode] at member
    exact isControl_of_isWordChar (isWordChar_of_mem_integer member)
  | float x =>
    rw [writtenNode] at member
    exact isControl_of_isWordChar (isWordChar_of_mem_float member)
  | boolean b =>
    have letters : (writtenNode (.boolean b)).all (!isControl ·) = true := by
      cases b <;> decide
    exact isControl_of_all letters c member
  | texts items =>
    rw [writtenNode_texts, List.cons_append, List.mem_cons, List.mem_append,
      List.mem_singleton] at member
    rcases member with rfl | inside | rfl
    · decide
    · rcases mem_intercalate inside with ⟨text, listed, inside⟩ | separator
      · obtain ⟨s, -, rfl⟩ := List.mem_map.1 listed
        exact isControl_of_mem_basicString inside
      · exact isControl_of_all (by decide) c separator
    · decide

/-- No line of a document holds a control. -/
theorem Statement.Plain.isControl {c : Char} {s : Statement} (plain : s.Plain)
    (member : c ∈ s.line) : isControl c = false := by
  cases plain with
  | gap => cases member
  | heading named =>
    rw [Statement.line, List.cons_append, List.mem_cons, List.mem_append,
      List.mem_singleton] at member
    rcases member with rfl | inside | rfl
    · decide
    · rcases named.isBareChar c inside with bare | rfl
      · exact isControl_of_isBareChar bare
      · decide
    · decide
  | setting key simple =>
    rw [Statement.line, List.mem_append, List.mem_append] at member
    rcases member with (inside | separator) | inside
    · exact isControl_of_mem_writtenKey inside
    · exact isControl_of_all (by decide) c separator
    · exact isControl_of_mem_node simple inside

/-! ### Sections -/

/-- A table of a document: its name, and its entries. -/
abbrev Section := String × Table

def tablesOf (sections : List Section) : Table :=
  sections.map fun s => (s.1, .table s.2)

/-- The lines of a section below a path. -/
def sectionLines (path : List String) (s : Section) : List Statement :=
  .heading (path ++ [s.1]) :: s.2.map fun entry => .setting entry.1 entry.2

/-- The lines of sections below a path, with a blank line between them. -/
def sectionsLines (path : List String) (sections : List Section) : List Statement :=
  [.gap].intercalate (sections.map (sectionLines path))

theorem forall_sectionsLines {P : Statement → Prop} {path : List String} {sections : List Section}
    (gap : P .gap) (heading : ∀ s ∈ sections, P (.heading (path ++ [s.1])))
    (setting : ∀ s ∈ sections, ∀ entry ∈ s.2, P (.setting entry.1 entry.2)) :
    ∀ line ∈ sectionsLines path sections, P line := by
  intro line listed
  rcases mem_intercalate listed with ⟨part, among, inside⟩ | between
  · obtain ⟨s, member, rfl⟩ := List.mem_map.1 among
    rcases List.mem_cons.1 inside with rfl | inside
    · exact heading s member
    · obtain ⟨entry, present, rfl⟩ := List.mem_map.1 inside
      exact setting s member entry present
  · rw [List.mem_singleton.1 between]
    exact gap

section

variable {entries : Table} (simple : ∀ entry ∈ entries, Simple entry.2)

include simple

theorem plainLines_eq : plainLines entries =
    linesText (entries.map fun entry => .setting entry.1 entry.2) := by
  have all : (entries.filter fun entry => entry.2.isPlain) = entries :=
    List.filter_eq_self.2 fun entry listed => (simple entry listed).isPlain
  rw [plainLines, all, linesText, List.flatMap_map]
  rfl

theorem tablesText_simple (path : List String) (apart : Bool) :
    tablesText path apart entries = [] := by
  induction entries with
  | nil => rw [tablesText]
  | cons entry rest ih =>
    rw [List.forall_mem_cons] at simple
    obtain ⟨key, node⟩ := entry
    obtain ⟨first, later⟩ := simple
    cases first with
    | texts items =>
      have single : (Node.array (items.map .text)).isTables = false := by
        cases items <;> rfl
      rw [tablesText, if_neg (by rw [single]; exact Bool.false_ne_true), ih later]
    | _ =>
      rw [tablesText, ih later]
      all_goals simp

theorem hasHeader_simple : hasHeader entries = true := by
  cases entries with
  | nil => rfl
  | cons entry rest =>
    have first : entry.2.isPlain = true := (simple entry List.mem_cons_self).isPlain
    rw [hasHeader, List.any_cons, first, Bool.true_or, Bool.or_true]

end

theorem documentText_simple {key : String} {node : Node} (simple : Simple node)
    (comment : List Char) :
    documentText comment [(key, node)] =
      commentText comment ++ linesText [.setting key node] := by
  have all : ∀ entry ∈ [(key, node)], Simple entry.2 := by
    intro entry listed
    rw [List.mem_singleton.1 listed]
    exact simple
  rw [documentText, plainLines_eq all, tablesText_simple all, List.append_nil]
  rfl

theorem headerText_eq (path : List String) :
    headerText path false = (Statement.heading path).line ++ ['\n'] :=
  rfl

section

variable {sections : List Section}
  (simple : ∀ s ∈ sections, ∀ entry ∈ s.2, Simple entry.2)

include simple

theorem tablesText_sections (path : List String) (apart : Bool) :
    tablesText path apart (tablesOf sections) =
      gapText (apart && !sections.isEmpty) ++ linesText (sectionsLines path sections) := by
  induction sections generalizing apart with
  | nil =>
    rw [tablesOf, List.map_nil, tablesText, List.isEmpty_nil, Bool.not_true, Bool.and_false]
    rfl
  | cons s rest ih =>
    rw [List.forall_mem_cons] at simple
    obtain ⟨name, entries⟩ := s
    have later := ih simple.2 true
    have first : tablesText path apart (tablesOf ((name, entries) :: rest)) =
        gapText apart ++ linesText (sectionLines path (name, entries)) ++
          tablesText path true (tablesOf rest) := by
      rw [tablesOf, List.map_cons, tablesText, if_pos (hasHeader_simple simple.1),
        plainLines_eq simple.1, tablesText_simple simple.1, List.append_nil, headerText_eq,
        sectionLines, linesText, linesText, List.flatMap_cons, tablesOf, List.append_assoc]
      simp
    rw [first, later, List.isEmpty_cons, Bool.not_false, Bool.and_true, List.append_assoc]
    congr 1
    cases rest with
    | nil => simp [sectionsLines, linesText, gapText]
    | cons next rest =>
      simp [sectionsLines, List.intercalate_cons_cons, linesText, gapText, Statement.line]

/-- A document of sections shows one after the other. -/
theorem documentText_sections (comment : List Char) :
    documentText comment (tablesOf sections) =
      commentText comment ++ linesText (sectionsLines [] sections) := by
  have none : (tablesOf sections).filter (fun entry => entry.2.isPlain) = [] := by
    rw [List.filter_eq_nil_iff]
    intro entry listed
    obtain ⟨s, -, rfl⟩ := List.mem_map.1 listed
    exact Bool.false_ne_true
  have together : startsApart (tablesOf sections) = false := by
    cases sections with
    | nil => rfl
    | cons s rest =>
      have later : ((tablesOf rest).any fun entry => entry.2.isPlain) = false := by
        rw [tablesOf, List.any_map]
        exact List.any_eq_false.2 fun s _ => Bool.false_ne_true
      exact later
  rw [documentText, plainLines, none, together, tablesText_sections simple, List.flatMap_nil,
    List.append_nil]
  rfl

end

end TypstMarkup.Toml
