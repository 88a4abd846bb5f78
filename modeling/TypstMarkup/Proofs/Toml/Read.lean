import TypstMarkup.Toml.Document
import TypstMarkup.Proofs.OrderedMap
import TypstMarkup.Proofs.Success
import TypstMarkup.Proofs.Toml.Outline

/-!
Written documents read back. An assignment that reads back in a document of its own does so in every
section, since a line is read by itself and a new key goes to the end of the open table. So a
document of sections reads back if each of its assignments does.
-/
namespace TypstMarkup.Toml

/-! ### Stripped lines -/

theorem strip_cons {c : Char} (noBlank : Text.isBlank c = false) (rest : List Char) :
    ∃ more, Text.strip (c :: rest) = c :: more := by
  have kept : (c :: rest).dropWhile Text.isBlank = c :: rest := by
    rw [List.dropWhile_cons, noBlank]
    rfl
  have last : [c].dropWhile Text.isBlank = [c] := by
    rw [List.dropWhile_cons, noBlank]
    rfl
  rw [Text.strip, kept, List.reverse_cons, List.dropWhile_append, last]
  split
  · exact ⟨[], rfl⟩
  · exact ⟨((rest.reverse).dropWhile Text.isBlank).reverse, by rw [List.reverse_append]; rfl⟩

theorem strip_blanks (count : Nat) : Text.strip (List.replicate count ' ') = [] := by
  rw [Text.strip, List.dropWhile_replicate, if_pos (by decide)]
  rfl

/-- An assignment starts with a character that may stand in a bare key, or with a quote. -/
theorem exists_strip_setting (key : String) (node : Node) :
    ∃ c more, Text.strip (Statement.setting key node).line = c :: more ∧ c ≠ '[' ∧ c ≠ '{' := by
  rw [Statement.line, List.append_assoc]
  rcases writtenKey_cases key.toList with ⟨same, filled, bare⟩ | same
  · obtain ⟨c, rest, shape⟩ := List.exists_cons_of_ne_nil filled
    have first : isBareChar c = true := bare c (by rw [shape]; exact List.mem_cons_self)
    obtain ⟨more, stripped⟩ := strip_cons (isBlank_of_isBareChar first)
      (rest ++ ([' ', '=', ' '] ++ writtenNode node))
    rw [same, shape, List.cons_append]
    exact ⟨c, more, stripped, ne_of_isBareChar first rfl, ne_of_isBareChar first rfl⟩
  · obtain ⟨more, stripped⟩ := strip_cons (c := '"') (by decide)
      (key.toList.flatMap basicChar ++ ['"'] ++ ([' ', '=', ' '] ++ writtenNode node))
    rw [same, basicString]
    exact ⟨'"', more, stripped, by decide, by decide⟩

/-! ### Single lines -/

/-- A line that gives a key a value by itself. -/
def Sets (line : List Char) (key : String) (node : Node) : Prop :=
  '=' ∈ Text.strip line ∧ ∃ a, Assignment.ofLine? (Text.strip line) = .ok a ∧ a.path = [] ∧
    a.key = key ∧ pending? key a.value = .ok none ∧ Node.ofText? a.tidy a.value = .ok node

section

variable {r : Reading} (settled : r.pending = none)

include settled

theorem step?_blank {line : List Char} (blank : Text.strip line = []) : r.step? line = .ok r := by
  rw [Reading.step?, settled]
  dsimp only
  rw [blank]

theorem step?_setting (key : String) (node : Node) :
    r.step? (Statement.setting key node).line =
      if '=' ∈ Text.strip (Statement.setting key node).line then do
        let a ← Assignment.ofLine? (Text.strip (Statement.setting key node).line)
        let (root, pending) ← r.root.changeAt? (a.perform? Node.ofText? a.path) r.place
        return { r with root, pending }
      else .ok r := by
  obtain ⟨c, more, stripped, noHeader, noTable⟩ := exists_strip_setting key node
  rw [Reading.step?, settled]
  dsimp only
  rw [stripped]
  split
  · rename_i empty
    cases empty
  · rename_i opens
    exact absurd (List.cons.inj opens).1 noHeader
  · rw [Reading.assign?, List.head?_cons, if_neg (by simpa using noTable)]
    simp only [List.contains_iff_mem]
    rfl

end

/-! ### Assignments read back -/

section

variable {key : String} {node : Node}

/-- Below a table, an assignment goes to what stands under the first key of its path, or to a new
table there. -/
theorem perform?_cons (a : Assignment) (read : Bool → List Char → Except Refusal Node)
    (level : String) (rest : List String) (entries : Table) :
    a.perform? read (level :: rest) (.table entries) = do
      let (child, p) ← a.perform? read rest ((Table.get? entries level).getD (.table []))
      return (.table (OrderedMap.putEntry entries level child), p) := by
  rw [Assignment.perform?]
  cases found : Table.get? entries level with
  | some child =>
    simp only [orFail, Node.mentions?, found, Option.isSome_some, Node.entry?, Node.entries?,
      Node.setEntry?, Node.withEntries, bind, Except.bind, pure, Except.pure, if_true,
      Option.getD_some]
  | none =>
    have opened : Table.get? (OrderedMap.putEntry entries level (.table [])) level =
        some (.table []) := by
      rw [Table.get?, OrderedMap.find?_putEntry_self, Option.map_some]
    simp only [orFail, Node.mentions?, found, Option.isSome_none, Node.entry?, Node.entries?,
      Node.setEntry?, Node.withEntries, bind, Except.bind, pure, Except.pure, Bool.false_eq_true,
      if_false, opened, Option.getD_none, OrderedMap.putEntry_putEntry]

theorem exists_table_perform? {a : Assignment} {read : Bool → List Char → Except Refusal Node}
    {path : List String} {entries : Table} {child : Node} {p : Option Pending}
    (performed : a.perform? read path (.table entries) = .ok (child, p)) :
    ∃ entries, child = .table entries := by
  cases path with
  | nil =>
    rw [Assignment.perform?] at performed
    obtain ⟨p, -, performed⟩ := bind_eq_ok_iff.1 performed
    cases p with
    | some p =>
      dsimp only at performed
      split at performed
      · split at performed
        · cases performed
        · cases performed
          exact ⟨_, rfl⟩
      · cases performed
    | none =>
      obtain ⟨value, -, performed⟩ := bind_eq_ok_iff.1 performed
      split at performed
      · obtain ⟨child, made, performed⟩ := bind_eq_ok_iff.1 performed
        cases performed
        cases made
        exact ⟨_, rfl⟩
      · cases performed
  | cons level rest =>
    rw [perform?_cons] at performed
    obtain ⟨inner, -, performed⟩ := bind_eq_ok_iff.1 performed
    cases performed
    exact ⟨_, rfl⟩

/-- An assignment that makes an empty table one with a simple value sets that value itself. -/
theorem sets_of_perform? (simple : Simple node) {a : Assignment} {root : Node} {p : Option Pending}
    (performed : a.perform? Node.ofText? a.path (.table []) = .ok (root, p))
    (entries : root.entries? = some [(key, node)]) :
    a.path = [] ∧ a.key = key ∧ pending? key a.value = .ok none ∧
      Node.ofText? a.tidy a.value = .ok node := by
  cases path : a.path with
  | nil =>
    rw [path, Assignment.perform?] at performed
    obtain ⟨p, whole, performed⟩ := bind_eq_ok_iff.1 performed
    cases p with
    | some p =>
      dsimp only at performed
      split at performed
      · split at performed
        · cases performed
        · cases performed
          cases entries
      · cases performed
    | none =>
      obtain ⟨value, read, performed⟩ := bind_eq_ok_iff.1 performed
      split at performed
      · obtain ⟨child, made, performed⟩ := bind_eq_ok_iff.1 performed
        cases performed
        cases made
        cases entries
        exact ⟨rfl, rfl, whole, read⟩
      · cases performed
  | cons level rest =>
    rw [path, perform?_cons] at performed
    obtain ⟨⟨inner, p⟩, below, performed⟩ := bind_eq_ok_iff.1 performed
    obtain ⟨more, rfl⟩ := exists_table_perform? below
    cases performed
    cases entries
    cases simple

/-- A blank line at the end changes no table. -/
theorem root_of_step?_nil {r next : Reading} (read : r.step? [] = .ok next) :
    next.root = r.root := by
  unfold Reading.step? at read
  split at read
  · rename_i p _
    have line : (if p.joined || !p.text.contains '\n' then Text.strip [] else []) = [] := by
      split <;> rfl
    rw [line] at read
    dsimp only at read
    split at read
    · cases read
      rfl
    · unfold Reading.continue? at read
      obtain ⟨closes, decided, read⟩ := bind_eq_ok_iff.1 read
      have goesOn : closes = false := by
        unfold closes? at decided
        split at decided
        · cases decided
        · cases decided
          rfl
      subst goesOn
      simp only [Bool.false_eq_true, if_false] at read
      split at read
      · cases read
        rfl
      · cases read
        rfl
  · cases read
    rfl

/-- A single assignment that reads back in a document of its own sets its key by itself. -/
theorem sets_of_read (simple : Simple node) {start : Reading} (settled : start.pending = none)
    (empty : start.root = .table []) (atRoot : start.place = []) {r next : Reading}
    (read : start.step? (Statement.setting key node).line = .ok r)
    (last : r.step? [] = .ok next) (entries : next.root.entries? = some [(key, node)]) :
    Sets (Statement.setting key node).line key node := by
  rw [root_of_step?_nil last] at entries
  rw [step?_setting settled] at read
  split at read
  · rename_i assigns
    obtain ⟨a, cut, read⟩ := bind_eq_ok_iff.1 read
    obtain ⟨⟨root, p⟩, changed, read⟩ := bind_eq_ok_iff.1 read
    rw [empty, atRoot, Node.changeAt?] at changed
    cases read
    exact ⟨assigns, a, cut, sets_of_perform? simple changed entries⟩
  · cases read
    rw [empty] at entries
    cases entries

theorem perform?_of_sets {a : Assignment} (path : a.path = []) (named : a.key = key)
    (whole : pending? key a.value = .ok none) (read : Node.ofText? a.tidy a.value = .ok node)
    {entries : Table} (fresh : key ∉ entries.map Prod.fst) :
    a.perform? Node.ofText? a.path (.table entries) =
      .ok (.table (entries ++ [(key, node)]), none) := by
  have absent : Node.entry? (.table entries) key = .ok none := by
    have none := OrderedMap.find?_eq_none_of_notMem fresh
    simp only [Node.entry?, Node.entries?, Table.get?, none, Option.map_none]
  rw [path, Assignment.perform?, named, whole]
  simp only [bind, Except.bind, read, absent, Node.setEntry?, Node.withEntries,
    OrderedMap.putEntry_of_notMem fresh]
  rfl

end

/-! ### Tables below a path -/

/-- A table at the end of a path, alone on the way to it. -/
def rooted : List String → Table → Node
  | [], entries => .table entries
  | name :: path, entries => .table [(name, rooted path entries)]

/-- A reading in the last section of a table at the end of a path. -/
def inSection (path implied : List String) (done : Table) (name : String) (entries : Table) :
    Reading :=
  { root := rooted path (done ++ [(name, .table entries)])
    place := (path ++ [name]).map .entry
    implied }

theorem get?_append_self {done : Table} {name : String} (fresh : name ∉ done.map Prod.fst)
    (node : Node) : Table.get? (done ++ [(name, node)]) name = some node := by
  have none := OrderedMap.find?_eq_none_of_notMem fresh
  rw [Table.get?, List.find?_append, none, List.find?_cons_of_pos (by simp)]
  rfl

theorem putEntry_append_self {done : Table} {name : String} (fresh : name ∉ done.map Prod.fst)
    (node other : Node) : OrderedMap.putEntry (done ++ [(name, node)]) name other =
      done ++ [(name, other)] := by
  rw [← OrderedMap.putEntry_of_notMem fresh, OrderedMap.putEntry_putEntry,
    OrderedMap.putEntry_of_notMem fresh]

/-- A change of the last table of a section goes down the path to it. -/
theorem changeAt?_rooted {α : Type} {change : Node → Except Refusal (Node × α)}
    {entries more : Table} {result : α}
    (changed : change (.table entries) = .ok (.table more, result)) (path : List String)
    {done : Table} {name : String} (fresh : name ∉ done.map Prod.fst) :
    (rooted path (done ++ [(name, Node.table entries)])).changeAt? change
        ((path ++ [name]).map .entry) =
      .ok (rooted path (done ++ [(name, .table more)]), result) := by
  induction path with
  | nil =>
    have found := get?_append_self fresh (.table entries)
    have put := putEntry_append_self fresh (.table entries) (.table more)
    simp only [rooted, List.nil_append, List.map_singleton, Node.changeAt?, Node.entries?, found,
      changed, bind, Except.bind, pure, Except.pure, Node.withEntries, put]
  | cons first path ih =>
    have found (node : Node) : Table.get? [(first, node)] first = some node := by
      simp [Table.get?]
    have put (node other : Node) :
        OrderedMap.putEntry [(first, node)] first other = [(first, other)] := by
      simp [OrderedMap.putEntry]
    simp only [rooted, List.cons_append, List.map_cons, Node.changeAt?, Node.entries?, found, ih,
      bind, Except.bind, pure, Except.pure, Node.withEntries, put]

/-- The header of a new table below a path. -/
theorem openTable?_rooted {path : List String} (filled : ∀ level ∈ path, level ≠ "")
    {name : String} (named : name ≠ "") {done : Table} (fresh : name ∉ done.map Prod.fst)
    (implied : List String) :
    openTable? false (path ++ [name]) implied (rooted path done) =
      .ok ⟨rooted path (done ++ [(name, Node.table [])]), (path ++ [name]).map .entry, implied⟩ := by
  induction path with
  | nil =>
    have absent : Table.get? done name = none := by
      rw [Table.get?, OrderedMap.find?_eq_none_of_notMem fresh, Option.map_none]
    simp only [List.nil_append, openTable?, rooted, Node.entry?, Node.entries?, absent, goOn?,
      freshNode, orFail, Node.setEntry?, Node.withEntries, OrderedMap.putEntry_of_notMem fresh]
    simp [named, bind, Except.bind, pure, Except.pure]
  | cons first path ih =>
    rw [List.forall_mem_cons] at filled
    have found (node : Node) : Table.get? [(first, node)] first = some node := by
      simp [Table.get?]
    have put (node other : Node) :
        OrderedMap.putEntry [(first, node)] first other = [(first, other)] := by
      simp [OrderedMap.putEntry]
    simp only [List.cons_append, openTable?, rooted, Node.entry?, Node.entries?, found, goOn?,
      openPresent?, orFail, Node.setEntry?, Node.withEntries, put]
    simp [filled.1, bind, Except.bind, pure, Except.pure, ih filled.2]

/-- The header of a table at a path, where nothing stands yet, opens the tables on the way. -/
theorem openTable?_fresh {path : List String} (filled : ∀ level ∈ path, level ≠ "")
    (implied : List String) :
    openTable? false path implied (.table []) =
      .ok ⟨rooted path [], path.map .entry, implied ++ path.dropLast⟩ := by
  induction path generalizing implied with
  | nil => simp [openTable?, rooted]
  | cons first path ih =>
    rw [List.forall_mem_cons] at filled
    have absent : Table.get? [] first = none := rfl
    have names : (if path = [] then implied else implied ++ [first]) ++ path.dropLast =
        implied ++ (first :: path).dropLast := by
      cases path <;> simp
    simp only [openTable?, rooted, Node.entry?, Node.entries?, absent, goOn?, freshNode, orFail,
      Node.setEntry?, Node.withEntries, OrderedMap.putEntry, Bool.false_and]
    simp [filled.1, bind, Except.bind, pure, Except.pure, ih filled.2, names]

/-! ### Sections -/

/-- Takes in the lines of a document. -/
def Reading.takeIn? (r : Reading) (lines : List Statement) : Except Refusal Reading :=
  lines.foldlM (fun r s => r.step? s.line) r

theorem takeIn?_append (r : Reading) (first later : List Statement) :
    r.takeIn? (first ++ later) = r.takeIn? first >>= fun r => r.takeIn? later :=
  List.foldlM_append

theorem takeIn?_gap {r : Reading} (settled : r.pending = none) (lines : List Statement) :
    r.takeIn? (.gap :: lines) = r.takeIn? lines := by
  have blank : r.step? Statement.gap.line = .ok r := step?_blank settled rfl
  rw [Reading.takeIn?, List.foldlM_cons, blank]
  rfl

section

variable {path implied : List String} {done : Table} {name : String}
  (fresh : name ∉ done.map Prod.fst)

include fresh

theorem step?_inSection {entries : Table} {key : String} {node : Node}
    (sets : Sets (Statement.setting key node).line key node)
    (new : key ∉ entries.map Prod.fst) :
    (inSection path implied done name entries).step? (Statement.setting key node).line =
      .ok (inSection path implied done name (entries ++ [(key, node)])) := by
  obtain ⟨assigns, a, cut, atTable, named, whole, read⟩ := sets
  have changed := changeAt?_rooted (perform?_of_sets atTable named whole read new) path fresh
  rw [step?_setting rfl, if_pos assigns, cut]
  simp only [inSection, changed, bind, Except.bind]
  rfl

/-- The assignments of a section go to its table, one behind the other. -/
theorem takeIn?_settings {entries more : Table}
    (sets : ∀ entry ∈ more, Sets (Statement.setting entry.1 entry.2).line entry.1 entry.2)
    (distinct : ((entries ++ more).map Prod.fst).Nodup) :
    (inSection path implied done name entries).takeIn?
        (more.map fun entry => .setting entry.1 entry.2) =
      .ok (inSection path implied done name (entries ++ more)) := by
  induction more generalizing entries with
  | nil =>
    rw [List.append_nil]
    rfl
  | cons entry more ih =>
    rw [List.forall_mem_cons] at sets
    have new : entry.1 ∉ entries.map Prod.fst := by
      rw [List.map_append, List.nodup_append] at distinct
      intro member
      exact distinct.2.2 _ member _ List.mem_cons_self rfl
    rw [List.append_cons] at distinct ⊢
    rw [List.map_cons, Reading.takeIn?, List.foldlM_cons, step?_inSection fresh sets.1 new]
    exact ih sets.2 distinct

end

/-- Whether the header of a path is read as that path. -/
def Headed (path : List String) : Prop :=
  header? (Text.strip (Statement.heading path).line) = some (path, false)

instance (path : List String) : Decidable (Headed path) :=
  inferInstanceAs (Decidable (_ = _))

theorem step?_heading {r : Reading} (settled : r.pending = none) {path : List String}
    (headed : Headed path) {opened : Opened}
    (opens : openTable? false path r.implied r.root = .ok opened) :
    r.step? (Statement.heading path).line =
      .ok { r with root := opened.node, place := opened.way, implied := opened.implied } := by
  obtain ⟨more, stripped⟩ := strip_cons (c := '[') (by decide)
    (pathText (path.map Key.ofName) ++ [']'])
  have line : Text.strip (Statement.heading path).line = '[' :: more := stripped
  rw [Headed, line] at headed
  rw [Reading.step?, settled]
  dsimp only
  rw [line]
  simp only [headed, opens, bind, Except.bind]
  rfl

/-- Sections that may be read: their headers are read as they are meant, and their assignments set
distinct keys. -/
structure Readable (path : List String) (sections : List Section) : Prop where
  headed : ∀ s ∈ sections, Headed (path ++ [s.1])
  named : ∀ s ∈ sections, s.1 ≠ ""
  distinct : (sections.map Prod.fst).Nodup
  sets : ∀ s ∈ sections, ∀ entry ∈ s.2,
    Sets (Statement.setting entry.1 entry.2).line entry.1 entry.2
  keys : ∀ s ∈ sections, (s.2.map Prod.fst).Nodup

theorem map_fst_tablesOf (sections : List Section) :
    (tablesOf sections).map Prod.fst = sections.map Prod.fst := by
  rw [tablesOf, List.map_map]
  rfl

section

variable {path : List String} (filled : ∀ level ∈ path, level ≠ "")

include filled

theorem takeIn?_section {s : Section} (headed : Headed (path ++ [s.1])) (named : s.1 ≠ "")
    (sets : ∀ entry ∈ s.2, Sets (Statement.setting entry.1 entry.2).line entry.1 entry.2)
    (keys : (s.2.map Prod.fst).Nodup) {done : Table} (fresh : s.1 ∉ done.map Prod.fst)
    {r : Reading} (settled : r.pending = none) (root : r.root = rooted path done) :
    r.takeIn? (sectionLines path s) = .ok (inSection path r.implied done s.1 s.2) := by
  obtain ⟨_, place, implied, _⟩ := r
  cases settled
  cases root
  have opens := openTable?_rooted filled named fresh implied
  have read : (inSection path implied done s.1 []).takeIn?
      (s.2.map fun entry => .setting entry.1 entry.2) = .ok (inSection path implied done s.1 s.2) :=
    takeIn?_settings fresh sets keys
  rw [sectionLines, Reading.takeIn?, List.foldlM_cons, step?_heading rfl headed opens]
  exact read

/-- Sections are read one after the other. -/
theorem takeIn?_sections (done : List Section) {sections : List Section}
    (readable : Readable path (done ++ sections)) {r : Reading} (settled : r.pending = none)
    (root : r.root = rooted path (tablesOf done)) :
    ∃ next, r.takeIn? (sectionsLines path sections) = .ok next ∧ next.pending = none ∧
      next.root = rooted path (tablesOf (done ++ sections)) := by
  induction sections generalizing done r with
  | nil =>
    refine ⟨r, rfl, settled, ?_⟩
    rw [List.append_nil, root]
  | cons s rest ih =>
    have listed : s ∈ done ++ s :: rest := by simp
    have fresh : s.1 ∉ (tablesOf done).map Prod.fst := by
      have distinct := readable.distinct
      rw [List.map_append, List.nodup_append] at distinct
      rw [map_fst_tablesOf]
      intro member
      exact distinct.2.2 _ member _ List.mem_cons_self rfl
    have first := takeIn?_section filled (readable.headed s listed) (readable.named s listed)
      (readable.sets s listed) (readable.keys s listed) fresh settled root
    have whole : (inSection path r.implied (tablesOf done) s.1 s.2).root =
        rooted path (tablesOf (done ++ [s])) := by
      have more : tablesOf (done ++ [s]) = tablesOf done ++ [(s.1, Node.table s.2)] := List.map_append
      rw [inSection, more]
    cases rest with
    | nil =>
      rw [sectionsLines, List.map_singleton, List.intercalate_singleton]
      exact ⟨_, first, rfl, whole⟩
    | cons next rest =>
      rw [List.append_cons] at readable ⊢
      obtain ⟨last, read, settled, root⟩ := ih (done ++ [s]) readable rfl whole
      refine ⟨last, ?_, settled, root⟩
      rw [sectionsLines, List.map_cons, List.map_cons, List.intercalate_cons_cons,
        List.append_assoc, takeIn?_append, first]
      exact (takeIn?_gap rfl _).trans read

end

/-! ### Documents -/

/-- The lines of a document of sections below a path, which has a header of its own. -/
def documentLines (path : List String) (sections : List Section) : List Statement :=
  (if path.isEmpty then [] else [Statement.heading path]) ++ sectionsLines path sections

theorem takeIn?_document {path : List String} (filled : ∀ level ∈ path, level ≠ "")
    (headed : path.isEmpty = false → Headed path) {sections : List Section}
    (readable : Readable path sections) {r : Reading} (settled : r.pending = none)
    (empty : r.root = .table []) :
    ∃ next, r.takeIn? (documentLines path sections) = .ok next ∧ next.pending = none ∧
      next.root = rooted path (tablesOf sections) := by
  rw [documentLines]
  cases atRoot : path.isEmpty with
  | true =>
    rw [List.isEmpty_iff] at atRoot
    subst atRoot
    exact takeIn?_sections filled [] readable settled empty
  | false =>
    have opens := openTable?_fresh filled r.implied
    rw [← empty] at opens
    obtain ⟨next, read, still, root⟩ := takeIn?_sections filled [] readable
      (r := { r with root := rooted path [], place := path.map .entry,
                     implied := r.implied ++ path.dropLast }) settled rfl
    refine ⟨next, ?_, still, root⟩
    rw [if_neg Bool.false_ne_true, List.singleton_append, Reading.takeIn?, List.foldlM_cons,
      step?_heading settled (headed atRoot) opens]
    exact read

/-- Reading a document takes in its lines, apart from a comment on top. -/
theorem read?_eq {comment : List Char} (noFeed : '\n' ∉ comment) {lines : List Statement}
    (plain : ∀ s ∈ lines, s.Plain) :
    read? ('#' :: (comment ++ '\n' :: linesText lines)) = do
      let r ← Reading.takeIn? {} lines
      let r ← r.step? []
      return r.root.entries?.getD [] := by
  have blank : Reading.step? {} (List.replicate (comment.length + 1) ' ') = .ok {} :=
    step?_blank rfl (strip_blanks _)
  have read : (List.replicate (comment.length + 1) ' ' ::
      (lines.map Statement.line ++ [[]])).foldlM Reading.step? {} =
        Reading.takeIn? {} lines >>= fun r => r.step? [] := by
    rw [List.foldlM_cons, blank]
    change (lines.map Statement.line ++ [[]]).foldlM Reading.step? {} = _
    rw [List.foldlM_append, List.foldlM_map, Reading.takeIn?]
    congr 1
    funext r
    rw [List.foldlM_cons]
    exact bind_pure _
  rw [read?, Outline.logicalLines?_document noFeed plain]
  change List.foldlM Reading.step? {} (_ :: _) >>= _ = _
  rw [read, bind_assoc]

/-- An assignment that reads back in a document of its own sets its key by itself. -/
theorem sets_of_read? {comment : List Char} (noFeed : '\n' ∉ comment) {key : String} {node : Node}
    (simple : Simple node)
    (read : read? ('#' :: (comment ++ '\n' :: linesText [.gap, .setting key node])) =
      .ok [(key, node)]) : Sets (Statement.setting key node).line key node := by
  have plain : ∀ s ∈ [Statement.gap, .setting key node], s.Plain := by
    simpa using And.intro Statement.Plain.gap (Statement.Plain.setting key simple)
  rw [read?_eq noFeed plain] at read
  obtain ⟨r, taken, read⟩ := bind_eq_ok_iff.1 read
  obtain ⟨next, last, read⟩ := bind_eq_ok_iff.1 read
  have first : Reading.step? {} (Statement.setting key node).line = .ok r := by
    rw [← taken, takeIn?_gap rfl, Reading.takeIn?]
    simp only [List.foldlM_cons, List.foldlM_nil, bind_pure]
  have entries : next.root.entries? = some [(key, node)] := by
    cases found : next.root.entries? with
    | none =>
      rw [found] at read
      cases read
    | some entries =>
      rw [found] at read
      cases read
      rfl
  exact sets_of_read simple rfl rfl rfl first last entries

/-- A document of sections reads back. -/
theorem read?_document {comment : List Char} (noFeed : '\n' ∉ comment) {path : List String}
    (filled : ∀ level ∈ path, level ≠ "") (headed : path.isEmpty = false → Headed path)
    {sections : List Section} (readable : Readable path sections)
    (plain : ∀ s ∈ documentLines path sections, s.Plain) :
    read? ('#' :: (comment ++ '\n' :: linesText (.gap :: documentLines path sections))) =
      .ok ((rooted path (tablesOf sections)).entries?.getD []) := by
  obtain ⟨next, read, settled, root⟩ := takeIn?_document filled headed readable (r := {}) rfl rfl
  have lines : ∀ s ∈ .gap :: documentLines path sections, s.Plain :=
    List.forall_mem_cons.2 ⟨.gap, plain⟩
  rw [read?_eq noFeed lines, takeIn?_gap rfl, read]
  change (next.step? [] >>= _) = _
  rw [step?_blank settled rfl, ← root]
  rfl

end TypstMarkup.Toml
