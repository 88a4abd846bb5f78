import TypstMarkup.Configuration.Dump
import TypstMarkup.Proofs.Configuration.Settings
import TypstMarkup.Proofs.Toml.Nested
import TypstMarkup.Proofs.Toml.Read

/-!
The document of a configuration. It has a section for the settings, one for the compiler and perhaps
one for the sources, below the table that it is dumped to. If the texts and numbers in it read back
one by one, then the document reads back as a whole.
-/
namespace TypstMarkup.Configuration

open Markup (coreKeys)

/-! ### Settings as nodes -/

theorem ofToken?_name (m : Mode) : Mode.ofToken? m.name.toList = some m := by
  cases m <;> decide

theorem setting?_other {key : String} (other : key ∉ coreKeys) {source : String} {v : Value}
    (readable : (∃ x, v.core = .float x) ∨ (v.text?.isSome || v.int?.isSome) = true) :
    setting? source key v = .ok v := by
  unfold setting?
  split
  · exact absurd (by decide) other
  · exact absurd (by decide) other
  · exact absurd (by decide) other
  · exact absurd (by decide) other
  · split
    · rfl
    · rename_i noFloat
      rcases readable with ⟨x, float⟩ | readable
      · exact absurd float (noFloat x)
      · rw [if_pos readable]

theorem settingNode?_integer {n : Int} {node : Toml.Node}
    (made : settingNode? (.int n) = .ok node) :
    (Value.int n).overlong = false ∧ node = .integer n := by
  rw [settingNode?, Toml.Node.ofValue?] at made
  · split at made
    · cases made
    · rename_i short
      cases made
      exact ⟨Bool.eq_false_iff.2 short, rfl⟩
  all_goals simp

/-- The node of a setting: it is simple, it is a word if it is an integer, and reading it gives the
setting again. -/
structure NodeOf (key : String) (v : Value) (node : Toml.Node) : Prop where
  simple : Toml.Simple node
  worded : (∀ x, v ≠ .float x) → Toml.IsWorded node
  setting : ∀ source, setting? source key node.toValue = .ok v

theorem nodeOf_of_accepted {key : String} {v : Value} {node : Toml.Node}
    (accepted : Accepted key v) (made : settingNode? v = .ok node) : NodeOf key v node := by
  cases accepted with
  | mode named m =>
    subst named
    cases made
    refine ⟨.text _, fun _ => trivial, fun source => ?_⟩
    have named : (Value.str m.name).text?.bind (fun text => Mode.ofToken? text.toList) = some m :=
      ofToken?_name m
    rw [Toml.Node.toValue, setting?, named]
  | inline named b =>
    subst named
    cases made
    exact ⟨.boolean b, fun _ => trivial, fun _ => rfl⟩
  | indent named text =>
    subst named
    cases made
    exact ⟨.text text, fun _ => trivial, fun _ => rfl⟩
  | depth named n =>
    subst named
    obtain ⟨short, rfl⟩ := settingNode?_integer made
    refine ⟨.integer n, fun _ => Toml.isNumber_integer short, fun source => ?_⟩
    have natural : (0 : Int) ≤ n := Int.natCast_nonneg n
    rw [Toml.Node.toValue, setting?]
    exact if_pos natural
  | text other text =>
    cases made
    exact ⟨.text text, fun _ => trivial, fun _ => setting?_other other (.inr rfl)⟩
  | integer other n =>
    obtain ⟨short, rfl⟩ := settingNode?_integer made
    exact ⟨.integer n, fun _ => Toml.isNumber_integer short,
      fun _ => setting?_other other (.inr rfl)⟩
  | float other x =>
    cases made
    exact ⟨.float x, fun noFloat => absurd rfl (noFloat x),
      fun _ => setting?_other other (.inl ⟨x, rfl⟩)⟩
  | boolean other b =>
    cases made
    exact ⟨.boolean b, fun _ => trivial, fun _ => setting?_other other (.inr rfl)⟩

theorem Accepted.not_isDictionary {key : String} {v : Value} (accepted : Accepted key v) :
    Toml.Node.isDictionary v = false := by
  cases accepted <;> rfl

/-! ### The sections of a document -/

/-- The settings of a configuration as they stand in a document. -/
def settingsTable (c : Configuration) : Toml.Table :=
  c.settings.entries.map fun entry => (entry.1, (settingNode? entry.2).toOption.getD default)

def compilerTable (c : Configuration) : Toml.Table :=
  [("executable", .text (c.executable.getD "")), ("font_paths", .array (c.fontFolders.map .text))]

def sectionsOf (c : Configuration) (withSources : Bool) : List Toml.Section :=
  [("settings", c.settingsTable), ("compiler", c.compilerTable)] ++
    if withSources then [("sources", [("files", .array (c.sources.map .text))])] else []

variable {c : Configuration} {shared withSources : Bool}

theorem forall_sectionsOf {P : Toml.Section → Prop} (settings : P ("settings", c.settingsTable))
    (compiler : P ("compiler", c.compilerTable))
    (sources : withSources = true → P ("sources", [("files", .array (c.sources.map .text))])) :
    ∀ s ∈ sectionsOf c withSources, P s := by
  rw [sectionsOf, List.cons_append, List.cons_append, List.forall_mem_cons, List.forall_mem_cons]
  refine ⟨settings, compiler, ?_⟩
  cases withSources with
  | false => exact fun s listed => absurd listed List.not_mem_nil
  | true => exact List.forall_mem_singleton.2 (sources rfl)

/-- The comment line on top of a dumped configuration. -/
def title : List Char := ' ' :: dumpComment.toList

/-- The path to the table that a configuration is dumped to. -/
def place (shared : Bool) : List String := if shared then sharedTable else []

theorem commented (lines : List Toml.Statement) :
    Toml.commentText dumpComment.toList ++ Toml.linesText lines =
      '#' :: (title ++ '\n' :: Toml.linesText (.gap :: lines)) := by
  have comment : Toml.commentText dumpComment.toList = '#' :: (title ++ ['\n', '\n']) := by
    decide
  rw [comment]
  simp [Toml.linesText, Toml.Statement.line]

theorem isControl_title : ∀ c ∈ title, Toml.isControl c = false :=
  Toml.isControl_of_all (by decide)

/-! ### Entries that read back -/

/-- A node reads back under a key: a document that sets nothing else says so. -/
def EntryReads (key : String) (node : Toml.Node) : Prop :=
  Toml.read? (Toml.documentText dumpComment.toList [(key, node)]) = .ok [(key, node)]

theorem EntryReads.sets {key : String} {node : Toml.Node} (reads : EntryReads key node)
    (simple : Toml.Simple node) :
    Toml.Sets (Toml.Statement.setting key node).line key node := by
  rw [EntryReads, Toml.documentText_simple simple, commented] at reads
  refine Toml.sets_of_read? (fun feed => ?_) simple reads
  cases isControl_title _ feed

/-- Reading inverts writing on the texts, numbers, truth values and lists of texts in a
configuration: each of them can be written, and reads back by itself. A document for the shared file
is also read with its layout, where floating point numbers are words. -/
structure Faithful (c : Configuration) (shared withSources : Bool) : Prop where
  settings : ∀ key v, c.settings.get? key = some v →
    ∃ node, settingNode? v = .ok node ∧ EntryReads key node
  executable : EntryReads "executable" (.text (c.executable.getD ""))
  fontFolders : EntryReads "font_paths" (.array (c.fontFolders.map .text))
  sources : withSources = true → EntryReads "files" (.array (c.sources.map .text))
  floats : shared = true → ∀ key x, c.settings.get? key = some (.float x) →
    Toml.isNumber (x.written true) = true

/-- What holds of each entry of a document that reads back. -/
structure Entry (shared : Bool) (key : String) (node : Toml.Node) : Prop where
  simple : Toml.Simple node
  reads : EntryReads key node
  worded : shared = true → Toml.IsWorded node

section

variable (accepted : ∀ {key v}, c.settings.get? key = some v → Accepted key v)
  (faithful : Faithful c shared withSources)

include accepted faithful

/-- Each setting has a node, which stands in the table of the settings. -/
theorem node_of_mem {entry : String × Value} (listed : entry ∈ c.settings.entries) :
    settingNode? entry.2 = .ok ((settingNode? entry.2).toOption.getD default) ∧
      NodeOf entry.1 entry.2 ((settingNode? entry.2).toOption.getD default) ∧
      Entry shared entry.1 ((settingNode? entry.2).toOption.getD default) := by
  have present := c.settings.get?_of_mem listed
  obtain ⟨node, made, reads⟩ := faithful.settings _ _ present
  have nodeOf := nodeOf_of_accepted (accepted present) made
  have same : (settingNode? entry.2).toOption.getD default = node := by
    rw [made]
    rfl
  rw [same]
  refine ⟨made, nodeOf, nodeOf.simple, reads, fun isShared => ?_⟩
  by_cases float : ∃ x, entry.2 = .float x
  · obtain ⟨x, given⟩ := float
    rw [given] at made present
    cases made
    exact faithful.floats isShared _ _ present
  · exact nodeOf.worded fun x given => float ⟨x, given⟩

theorem entries_sectionsOf : ∀ s ∈ sectionsOf c withSources,
    ∀ entry ∈ s.2, Entry shared entry.1 entry.2 := by
  refine forall_sectionsOf ?_ ?_ fun present => ?_
  · intro entry listed
    obtain ⟨setting, among, rfl⟩ := List.mem_map.1 listed
    exact (node_of_mem accepted faithful among).2.2
  · rw [compilerTable, List.forall_mem_cons, List.forall_mem_singleton]
    exact ⟨⟨.text _, faithful.executable, fun _ => trivial⟩,
      ⟨.texts _, faithful.fontFolders, fun _ => trivial⟩⟩
  · rw [List.forall_mem_singleton]
    exact ⟨.texts _, faithful.sources present, fun _ => trivial⟩

theorem tables?_eq : c.tables? withSources = .ok (Toml.tablesOf (sectionsOf c withSources)) := by
  have plain : ∀ entry ∈ c.settings.entries, Toml.Node.isDictionary entry.2 = false :=
    fun entry listed => (accepted (c.settings.get?_of_mem listed)).not_isDictionary
  have none : c.settings.entries.partition (fun entry => Toml.Node.isDictionary entry.2) =
      ([], c.settings.entries) := by
    rw [List.partition_eq_filter_filter, List.filter_eq_nil_iff.2, List.filter_eq_self.2]
    · intro entry listed
      simp [plain entry listed]
    · intro entry listed
      simp [plain entry listed]
  rw [tables?, none]
  refine bind_eq_ok_iff.2 ⟨c.settingsTable, ?_, ?_⟩
  · rw [List.append_nil]
    refine mapM_eq_ok_map fun entry listed => bind_eq_ok_iff.2 ⟨_, ?_, rfl⟩
    exact (node_of_mem accepted faithful listed).1
  · rw [sectionsOf, compilerTable]
    cases withSources <;> rfl

end

/-! ### Documents -/

theorem bare_sectionsOf (shared : Bool) : ∀ s ∈ sectionsOf c withSources,
    Toml.Headed (place shared ++ [s.1]) ∧ Toml.Named (place shared ++ [s.1]) ∧ s.1 ≠ "" := by
  have bare : ∀ name ∈ ["settings", "compiler", "sources"],
      Toml.Headed (place shared ++ [name]) ∧ Toml.Named (place shared ++ [name]) ∧ name ≠ "" := by
    cases shared <;> decide
  exact forall_sectionsOf (bare "settings" (by decide)) (bare "compiler" (by decide))
    fun _ => bare "sources" (by decide)

theorem keys_sectionsOf : ∀ s ∈ sectionsOf c withSources, (s.2.map Prod.fst).Nodup := by
  have compiler : ["executable", "font_paths"].Nodup := by decide
  have sources : ["files"].Nodup := by decide
  refine forall_sectionsOf ?_ compiler fun _ => sources
  rw [settingsTable, List.map_map]
  exact c.settings.nodup_keys

theorem distinct_sectionsOf (c : Configuration) (withSources : Bool) :
    ((sectionsOf c withSources).map Prod.fst).Nodup := by
  have names : (sectionsOf c withSources).map Prod.fst =
      ["settings", "compiler"] ++ if withSources then ["sources"] else [] := by
    cases withSources <;> rfl
  rw [names]
  cases withSources <;> decide

/-- The text of a dumped configuration: a comment, and the lines of the document. -/
def dumpedText (c : Configuration) (shared withSources : Bool) : List Char :=
  '#' :: (title ++ '\n' :: Toml.linesText
    (.gap :: Toml.documentLines (place shared) (sectionsOf c withSources)))

/-- What a dumped configuration reads as. -/
def dumpedTable (c : Configuration) (shared withSources : Bool) : Toml.Table :=
  (Toml.rooted (place shared) (Toml.tablesOf (sectionsOf c withSources))).entries?.getD []

section

variable (accepted : ∀ {key v}, c.settings.get? key = some v → Accepted key v)
  (faithful : Faithful c shared withSources)

include accepted faithful

theorem document?_eq :
    c.document? shared withSources = .ok (dumpedText c shared withSources) := by
  have entries := entries_sectionsOf accepted faithful
  have simple : ∀ s ∈ sectionsOf c withSources, ∀ entry ∈ s.2, Toml.Simple entry.2 :=
    fun s listed entry among => (entries s listed entry among).simple
  rw [document?, tables?_eq accepted faithful]
  change (if shared = true then Toml.nestedText (Toml.documentText _ _) _ else
    .ok (Toml.documentText _ _)) = _
  rw [Toml.documentText_sections simple, commented, dumpedText]
  cases shared with
  | false => rfl
  | true =>
    have path : Toml.sectionPath sharedSection.toList = ["tool"] ++ ["typstry"] := by decide
    refine Toml.nestedText_document path (by decide) isControl_title ?_ keys_sectionsOf
      (distinct_sectionsOf c withSources)
    refine Toml.forall_sectionsLines .gap (fun s listed => ?_) fun s listed entry among => ?_
    · exact .heading (bare_sectionsOf false s listed).2.1
    · exact .setting _ (simple s listed entry among) ((entries s listed entry among).worded rfl)

theorem plain_documentLines :
    ∀ line ∈ Toml.documentLines (place shared) (sectionsOf c withSources), line.Plain := by
  have entries := entries_sectionsOf accepted faithful
  have sections : ∀ line ∈ Toml.sectionsLines (place shared) (sectionsOf c withSources),
      line.Plain :=
    Toml.forall_sectionsLines .gap (fun s listed => .heading (bare_sectionsOf shared s listed).2.1)
      fun s listed entry among => .setting _ (entries s listed entry among).simple
  cases shared with
  | false => exact sections
  | true => exact List.forall_mem_cons.2 ⟨.heading (by decide), sections⟩

/-- A dumped configuration reads back. -/
theorem read?_dumpedText :
    Toml.read? (dumpedText c shared withSources) =
      .ok (dumpedTable c shared withSources) := by
  have entries := entries_sectionsOf accepted faithful
  have readable : Toml.Readable (place shared) (sectionsOf c withSources) :=
    { headed := fun s listed => (bare_sectionsOf shared s listed).1
      named := fun s listed => (bare_sectionsOf shared s listed).2.2
      distinct := distinct_sectionsOf c withSources
      sets := fun s listed entry among =>
        (entries s listed entry among).reads.sets (entries s listed entry among).simple
      keys := keys_sectionsOf }
  have noFeed : '\n' ∉ title := fun feed => by cases isControl_title _ feed
  refine Toml.read?_document noFeed ?_ ?_ readable (plain_documentLines accepted faithful)
  · cases shared <;> decide
  · cases shared with
    | false => exact fun filled => by cases filled
    | true => exact fun _ => by decide

theorem return_notMem_dumpedText : '\r' ∉ dumpedText c shared withSources := by
  have plain := List.forall_mem_cons.2
    ⟨Toml.Statement.Plain.gap, plain_documentLines accepted faithful⟩
  intro member
  rcases List.mem_cons.1 member with first | member
  · cases first
  rcases List.mem_append.1 member with inside | member
  · cases isControl_title _ inside
  rcases List.mem_cons.1 member with feed | member
  · cases feed
  obtain ⟨line, listed, inside⟩ := List.mem_flatMap.1 member
  rcases List.mem_append.1 inside with inside | feed
  · cases (plain line listed).isControl inside
  · cases List.mem_singleton.1 feed

end

/-! ### Checking what is assumed -/

/-- Whether two nodes are the same simple value. -/
def isSame : Toml.Node → Toml.Node → Bool
  | .text s, .text t => s == t
  | .integer n, .integer m => n == m
  | .float x, .float y => x == y
  | .boolean b, .boolean d => b == d
  | .array items, .array others => areSame items others
  | _, _ => false
where
  areSame : List Toml.Node → List Toml.Node → Bool
    | [], [] => true
    | .text s :: items, .text t :: others => s == t && areSame items others
    | _, _ => false

theorem eq_of_areSame {items others : List Toml.Node}
    (same : isSame.areSame items others = true) : items = others := by
  fun_induction isSame.areSame items others with
  | case1 => rfl
  | case2 s items t others ih =>
    obtain ⟨first, rest⟩ := Bool.and_eq_true_iff.1 same
    rw [eq_of_beq first, ih rest]
  | case3 => cases same

theorem eq_of_isSame {node other : Toml.Node} (same : isSame node other = true) :
    node = other := by
  unfold isSame at same
  split at same
  · rw [eq_of_beq same]
  · rw [eq_of_beq same]
  · rw [eq_of_beq same]
  · rw [eq_of_beq same]
  · rw [eq_of_areSame same]
  · cases same

/-- Whether a simple node reads back under a key. -/
def entryReads (key : String) (node : Toml.Node) : Bool :=
  match Toml.read? (Toml.documentText dumpComment.toList [(key, node)]) with
  | .ok [(found, read)] => found == key && isSame read node
  | _ => false

theorem entryReads_sound {key : String} {node : Toml.Node} (holds : entryReads key node = true) :
    EntryReads key node := by
  unfold entryReads at holds
  split at holds
  · rename_i found read result
    obtain ⟨named, same⟩ := Bool.and_eq_true_iff.1 holds
    rw [EntryReads, result, eq_of_beq named, eq_of_isSame same]
  · cases holds

/-- Whether a setting reads back; as a floating point number, it must read as a word. -/
def settingReads (entry : String × Value) : Bool :=
  (settingNode? entry.2).toOption.any fun node => entryReads entry.1 node &&
    match node with
    | .float x => Toml.isNumber (x.written true)
    | _ => true

/-- Whether all texts and numbers of a configuration read back. -/
def isFaithful (c : Configuration) : Bool :=
  c.settings.entries.all settingReads &&
    entryReads "executable" (.text (c.executable.getD "")) &&
    entryReads "font_paths" (.array (c.fontFolders.map .text)) &&
    entryReads "files" (.array (c.sources.map .text))

theorem settingReads_sound {key : String} {v : Value} (holds : settingReads (key, v) = true) :
    ∃ node, settingNode? v = .ok node ∧ EntryReads key node ∧
      ∀ x, v = .float x → Toml.isNumber (x.written true) = true := by
  obtain ⟨node, written, holds⟩ := exists_of_any holds
  obtain ⟨reads, worded⟩ := Bool.and_eq_true_iff.1 holds
  refine ⟨node, written, entryReads_sound reads, ?_⟩
  rintro x rfl
  cases written
  exact worded

theorem faithful_of_isFaithful (holds : isFaithful c = true) (shared withSources : Bool) :
    Faithful c shared withSources := by
  obtain ⟨holds, sources⟩ := Bool.and_eq_true_iff.1 holds
  obtain ⟨holds, fontFolders⟩ := Bool.and_eq_true_iff.1 holds
  obtain ⟨settings, executable⟩ := Bool.and_eq_true_iff.1 holds
  have setting {key : String} {v : Value} (present : c.settings.get? key = some v) :
      settingReads (key, v) = true := by
    rw [← OrderedMap.ofList_entries c.settings] at present
    exact List.all_eq_true.1 settings _ (mem_of_get?_ofList present)
  exact
    { settings := fun key v present => by
        obtain ⟨node, written, reads, -⟩ := settingReads_sound (setting present)
        exact ⟨node, written, reads⟩
      executable := entryReads_sound executable
      fontFolders := entryReads_sound fontFolders
      sources := fun _ => entryReads_sound sources
      floats := fun _ key x present => by
        obtain ⟨-, -, -, worded⟩ := settingReads_sound (setting present)
        exact worded x rfl }

end TypstMarkup.Configuration
