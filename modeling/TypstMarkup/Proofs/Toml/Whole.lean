import TypstMarkup.Proofs.Toml.Relexed

/-!
Documents of which every table stands in one place. Such a document is a tree: a table has its
values first and then its tables, each with the header that leads to it unless it is only the way to
others. The text of the tree is that of its lines, header by header, and what it says is the tree
without the layout.
-/
namespace TypstMarkup.Toml

/-! ### What a document says -/

/-- What stands under a key, without the layout. -/
inductive Content where
  | value (text : List Char)
  | table (entries : List (String × Content))
  | tables (elements : List Content)

mutual

/-- What an item says. -/
def Item.content? : Item → Option Content
  | .blank _ | .comment _ => none
  | .value _ text _ => some (.value text)
  | .table _ entries => some (.table (contents entries))
  | .tables elements => some (.tables (elementContents elements))

/-- What a table or a document says: its keys in order, and what stands under each. -/
def contents : List (Option Slot × Item) → List (String × Content)
  | [] => []
  | (none, _) :: rest => contents rest
  | (some slot, item) :: rest =>
    (item.content?.map fun content => (slot.key.name, content)).toList ++ contents rest

/-- What the tables of an array say. -/
def elementContents : List Item → List Content
  | [] => []
  | item :: rest => item.content?.toList ++ elementContents rest

end

theorem contents_append (first later : Body) :
    contents (first ++ later) = contents first ++ contents later := by
  induction first with
  | nil => simp [contents]
  | cons entry first ih =>
    obtain ⟨slot, item⟩ := entry
    cases slot <;> simp [contents, ih]

/-! ### Whole tables -/

/-- Tables among the items of a body. -/
def tableItems (tables : List (Slot × Item)) : Body :=
  tables.map fun entry => (some entry.1, entry.2)

/-- A key as it is read from its line: the blanks before the equals sign belong to it. -/
def Slot.asRead (slot : Slot) : Slot where
  key := ⟨slot.key.name, slot.key.written ++ slot.separator.takeWhile isSpacing⟩
  separator := slot.separator.dropWhile isSpacing

theorem Slot.asRead_asRead (slot : Slot) : slot.asRead.asRead = slot.asRead := by
  have solid : (slot.separator.dropWhile isSpacing).takeWhile isSpacing = [] := by
    cases rest : slot.separator.dropWhile isSpacing with
    | nil => rfl
    | cons c more =>
      have stop := List.head?_dropWhile_not isSpacing slot.separator
      rw [rest] at stop
      rw [List.takeWhile_cons, stop]
      rfl
  have same : (slot.separator.dropWhile isSpacing).dropWhile isSpacing =
      slot.separator.dropWhile isSpacing := by
    have whole := List.takeWhile_append_dropWhile (p := isSpacing)
      (l := slot.separator.dropWhile isSpacing)
    rwa [solid, List.nil_append] at whole
  simp [Slot.asRead, solid, same]

/-- The line of a value under a key. -/
def Slot.line (slot : Slot) (item : Item) : Line :=
  .entry [slot.asRead.key] slot.asRead.separator item

/-- What may stand before the tables of a body: blank lines, comments, and values under one key. -/
inductive IsPlain : Option Slot × Item → Prop
  | blank {text : List Char} (layout : IsLayout text) : IsPlain (none, .blank text)
  | comment {text : List Char} (written : (Line.comment text).IsWritten) :
    IsPlain (none, .comment text)
  | value {slot : Slot} {sort : ValueSort} {text : List Char} {margin : Margin}
    (single : slot.dotted = false) (written : (slot.line (.value sort text margin)).IsWritten) :
    IsPlain (some slot, .value sort text margin)

/-- A key that a header ends with. -/
structure Slot.Heads (slot : Slot) : Prop where
  single : slot.dotted = false
  written : slot.key.IsWritten

/-- A table that stands in one place, and so do all tables in it: it has a header of its own, or it
is the way to tables that follow one another. -/
inductive Item.IsWhole : Item → Prop
  | headed {head : Head} {content : Body} {tables : List (Slot × Item)}
    (own : head.onWay = some false) (alone : head.inArray = false)
    (indent : IsGap head.margin.indent) (ends : head.margin.IsWritten)
    (plain : ∀ entry ∈ content, IsPlain entry) (heads : ∀ entry ∈ tables, entry.1.Heads)
    (whole : ∀ entry ∈ tables, entry.2.IsWhole)
    (distinct : (slotNames (content ++ tableItems tables)).Nodup) :
    IsWhole (.table head (content ++ tableItems tables))
  | implied {head : Head} {tables : List (Slot × Item)} (way : head.onWay = some true)
    (alone : head.inArray = false) (indent : IsGap head.margin.indent) (filled : tables ≠ [])
    (heads : ∀ entry ∈ tables, entry.1.Heads) (whole : ∀ entry ∈ tables, entry.2.IsWhole)
    (distinct : (slotNames (tableItems tables)).Nodup) : IsWhole (.table head (tableItems tables))

namespace Item.IsWhole

theorem exists_table {item : Item} (whole : item.IsWhole) :
    ∃ head entries, item = .table head entries := by
  cases whole <;> exact ⟨_, _, rfl⟩

/-- The indent of a header does not matter. -/
theorem withIndent {head : Head} {entries : Body} (whole : (Item.table head entries).IsWhole)
    {indent : List Char} (gap : IsGap indent) :
    (Item.table { head with margin := { head.margin with indent } } entries).IsWhole := by
  cases whole with
  | headed own alone _ ends plain heads whole distinct =>
    exact .headed own alone gap (ends.withIndent indent) plain heads whole distinct
  | implied way alone _ filled heads whole distinct =>
    exact .implied way alone gap filled heads whole distinct

theorem isGap {head : Head} {entries : Body} (whole : (Item.table head entries).IsWhole) :
    IsGap head.margin.indent := by
  cases whole with
  | headed _ _ indent => exact indent
  | implied _ _ indent => exact indent

end Item.IsWhole

/-! ### Lines -/

/-- Cuts a text behind every line feed. -/
def cutLines : List Char → List (List Char)
  | [] => []
  | c :: rest =>
    if c == '\n' then [c] :: cutLines rest
    else match cutLines rest with
      | [] => [[c]]
      | line :: later => (c :: line) :: later

/-- The header of a table that has one. -/
def headerLines (path : List Key) (head : Head) : List Line :=
  if head.onWay = some true then [] else [.header { path, inArray := false, margin := head.margin }]

mutual

/-- The lines of an item under a key, below a path. -/
def itemLines (path : List Key) (slot : Slot) : Item → List Line
  | .table head entries =>
    headerLines (path ++ [slot.key]) head ++ bodyLines (path ++ [slot.key]) entries
  | item => [slot.line item]

/-- The lines of the items of the table at a path. -/
def bodyLines (path : List Key) : List (Option Slot × Item) → List Line
  | [] => []
  | (none, .blank text) :: rest => (cutLines text).map .blank ++ bodyLines path rest
  | (none, .comment text) :: rest => .comment text :: bodyLines path rest
  | (none, _) :: rest => bodyLines path rest
  | (some slot, item) :: rest => itemLines path slot item ++ bodyLines path rest

end

theorem bodyLines_append (path : List Key) (first later : Body) :
    bodyLines path (first ++ later) = bodyLines path first ++ bodyLines path later := by
  induction first with
  | nil => simp [bodyLines]
  | cons entry first ih =>
    obtain ⟨slot, item⟩ := entry
    cases slot with
    | none => cases item <;> simp [bodyLines, ih]
    | some slot => simp [bodyLines, ih]

@[simp]
theorem itemLines_value (path : List Key) (slot : Slot) (sort : ValueSort) (text : List Char)
    (margin : Margin) : itemLines path slot (.value sort text margin) =
      [slot.line (.value sort text margin)] := by
  rw [itemLines]
  intro head entries same
  cases same

@[simp]
theorem bodyLines_value (path : List Key) (slot : Slot) (sort : ValueSort) (text : List Char)
    (margin : Margin) (rest : Body) :
    bodyLines path ((some slot, .value sort text margin) :: rest) =
      slot.line (.value sort text margin) :: bodyLines path rest := by
  rw [bodyLines, itemLines_value, List.singleton_append]

theorem flatten_cutLines (text : List Char) : (cutLines text).flatten = text := by
  induction text with
  | nil => rfl
  | cons c text ih =>
    rw [cutLines]
    split
    · rw [List.flatten_cons, ih]
      rfl
    · split
      · rename_i none
        rw [none] at ih
        rw [← ih]
        rfl
      · rename_i some
        rw [some] at ih
        rw [← ih]
        rfl

theorem cutLines_line {gap feed : List Char} (blank : IsGap gap) (feeds : feed = [] ∨ feed = ['\n'])
    (filled : gap ++ feed ≠ []) : cutLines (gap ++ feed) = [gap ++ feed] := by
  induction gap with
  | nil =>
    rcases feeds with rfl | rfl
    · exact absurd rfl filled
    · rfl
  | cons c gap ih =>
    rw [IsGap, List.forall_mem_cons] at blank
    have noFeed : (c == '\n') = false := by
      rw [beq_eq_false_iff_ne]
      rintro rfl
      cases blank.1
    rw [List.cons_append, cutLines, noFeed, if_neg Bool.false_ne_true]
    by_cases more : gap ++ feed = []
    · rw [more]
      rfl
    · rw [ih blank.2 more]

/-- A blank that joins another one adds its lines if that ends with a line feed. -/
theorem cutLines_append {before : List Char} (closed : before = [] ∨ Closes before)
    (text : List Char) : cutLines (before ++ text) = cutLines before ++ cutLines text := by
  induction before with
  | nil => rfl
  | cons c before ih =>
    have closes : Closes (c :: before) := closed.resolve_left (List.cons_ne_nil _ _)
    by_cases more : before = []
    · subst more
      have feed : c = '\n' := Option.some.inj closes
      subst feed
      rfl
    · have later := ih (.inr (by rwa [Closes, List.getLast?_cons_of_ne_nil more] at closes))
      obtain ⟨line, rest, shape⟩ : ∃ line rest, cutLines before = line :: rest := by
        refine List.exists_cons_of_ne_nil fun none => more ?_
        rw [← flatten_cutLines before, none]
        rfl
      rw [List.cons_append, cutLines, cutLines, later, shape]
      split <;> rfl

/-- Blank lines are cut from a blank. -/
theorem isWritten_cutLines {text : List Char} (layout : IsLayout text) :
    ∀ line ∈ cutLines text, (Line.blank line).IsWritten := by
  induction text with
  | nil => exact List.forall_mem_nil _
  | cons c text ih =>
    have known := layout c List.mem_cons_self
    have later := ih fun d listed => layout d (List.mem_cons_of_mem c listed)
    rw [cutLines]
    split
    · rename_i feed
      rw [beq_iff_eq.1 feed]
      exact List.forall_mem_cons.2 ⟨.feed, later⟩
    · rename_i noFeed
      have gap : (isSpacing c || c == '\r') = true := by
        rw [Bool.not_eq_true] at noFeed
        rwa [noFeed, Bool.or_false] at known
      split
      · exact List.forall_mem_singleton.2 (@Line.IsWritten.blank [c] []
          (List.forall_mem_singleton.2 gap) (.inl rfl) (List.cons_ne_nil _ _))
      · rename_i line more some
        rw [some, List.forall_mem_cons] at later
        refine List.forall_mem_cons.2 ⟨?_, later.2⟩
        obtain ⟨first, -⟩ := later
        cases first with
        | @blank blank feed isGap feeds _ =>
          exact @Line.IsWritten.blank (c :: blank) feed (List.forall_mem_cons.2 ⟨gap, isGap⟩) feeds
            (List.cons_ne_nil _ _)

theorem Line.IsWritten.layout {text : List Char} (written : (Line.blank text).IsWritten) :
    IsLayout text ∧ cutLines text = [text] := by
  cases written with
  | @blank gap feed blank feeds filled =>
    refine ⟨List.forall_mem_append.2 ⟨fun c listed => ?_, ?_⟩, cutLines_line blank feeds filled⟩
    · have known := blank c listed
      rw [Bool.or_eq_true] at known
      rcases known with spacing | back
      · rw [spacing]
        rfl
      · rw [back, Bool.or_true]
    · rcases feeds with rfl | rfl
      · exact List.forall_mem_nil _
      · exact List.forall_mem_singleton.2 rfl

/-- Whether all lines but the last one end with line feeds. -/
def IsClosed (ls : List Line) : Prop :=
  ∀ line ∈ ls.dropLast, Closes line.ending

section

variable {first later : List Line}

theorem IsClosed.right (closed : IsClosed (first ++ later)) : IsClosed later := by
  intro line listed
  refine closed line ?_
  cases later with
  | nil => cases listed
  | cons next later =>
    rw [List.dropLast_append_of_ne_nil (List.cons_ne_nil next later)]
    exact List.mem_append_right _ listed

theorem IsClosed.left (closed : IsClosed (first ++ later)) (more : later ≠ []) :
    ∀ line ∈ first, Closes line.ending := by
  intro line listed
  refine closed line ?_
  rw [List.dropLast_append_of_ne_nil more]
  exact List.mem_append_left _ listed

theorem IsClosed.append (front : ∀ line ∈ first, Closes line.ending) (closed : IsClosed later) :
    IsClosed (first ++ later) := by
  intro line listed
  cases later with
  | nil =>
    rw [List.append_nil] at listed
    exact front line (List.dropLast_subset _ listed)
  | cons next later =>
    rw [List.dropLast_append_of_ne_nil (List.cons_ne_nil next later), List.mem_append] at listed
    exact listed.elim (front line) (closed line)

theorem IsClosed.front (closed : IsClosed (first ++ later)) : IsClosed first := by
  by_cases more : later = []
  · rwa [more, List.append_nil] at closed
  · exact fun line listed => closed.left more line (List.dropLast_subset _ listed)

theorem IsClosed.congr (closed : IsClosed first)
    (same : later.map Line.ending = first.map Line.ending) : IsClosed later := by
  intro line listed
  have ending : line.ending ∈ (later.map Line.ending).dropLast := by
    rw [← List.map_dropLast]
    exact List.mem_map_of_mem listed
  rw [same, ← List.map_dropLast] at ending
  obtain ⟨other, member, same⟩ := List.mem_map.1 ending
  rw [← same]
  exact closed other member

theorem isClosed_of_closes {ls : List Line} (all : ∀ line ∈ ls, Closes line.ending) :
    IsClosed ls :=
  fun line listed => all line (List.dropLast_subset _ listed)

end

mutual

/-- Where an item stands does not change how its lines end. -/
theorem ending_itemLines (path other : List Key) (slot otherSlot : Slot) : (item : Item) →
    (itemLines path slot item).map Line.ending =
      (itemLines other otherSlot item).map Line.ending
  | .table head entries => by
    rw [itemLines, itemLines, List.map_append, List.map_append, headerLines, headerLines,
      ending_bodyLines (path ++ [slot.key]) (other ++ [otherSlot.key]) entries]
    split <;> rfl
  | .blank _ | .comment _ | .value _ _ _ | .tables _ => by
    rw [itemLines, itemLines] <;> first | rfl | nofun

theorem ending_bodyLines (path other : List Key) : (body : List (Option Slot × Item)) →
    (bodyLines path body).map Line.ending = (bodyLines other body).map Line.ending
  | [] => by rw [bodyLines, bodyLines]
  | (none, .blank _) :: rest => by
    rw [bodyLines, bodyLines, List.map_append, List.map_append, ending_bodyLines path other rest]
  | (none, .comment _) :: rest => by
    rw [bodyLines, bodyLines, List.map_cons, List.map_cons, ending_bodyLines path other rest]
  | (none, .value _ _ _) :: rest | (none, .table _ _) :: rest | (none, .tables _) :: rest => by
    rw [bodyLines, bodyLines, ending_bodyLines path other rest] <;> nofun
  | (some slot, item) :: rest => by
    rw [bodyLines, bodyLines, List.map_append, List.map_append,
      ending_itemLines path other slot slot item, ending_bodyLines path other rest]

end

/-- What the lines of a body end with. -/
def endings (body : Body) : List (List Char) :=
  (bodyLines [] body).map Line.ending

theorem endings_append (first later : Body) :
    endings (first ++ later) = endings first ++ endings later := by
  rw [endings, bodyLines_append, List.map_append]
  rfl

theorem endings_table (slot : Slot) (head : Head) (entries : Body) :
    endings [(some slot, .table head entries)] =
      (headerLines [] head).map Line.ending ++ endings entries := by
  have header : (headerLines ([] ++ [slot.key]) head).map Line.ending =
      (headerLines [] head).map Line.ending := by
    rw [headerLines, headerLines]
    split <;> rfl
  rw [endings, bodyLines, bodyLines, itemLines, List.append_nil, List.map_append, header,
    ending_bodyLines _ []]
  rfl

theorem endings_way {head : Head} (way : head.onWay = some true) (slot : Slot) (entries : Body) :
    endings [(some slot, .table head entries)] = endings entries := by
  rw [endings_table, headerLines, if_pos way, List.map_nil, List.nil_append]

theorem endings_own {head : Head} (own : head.onWay = some false) (slot : Slot) (entries : Body) :
    endings [(some slot, .table head entries)] = head.margin.ending :: endings entries := by
  rw [endings_table, headerLines, if_neg (by simp [own])]
  rfl

theorem isWritten_plain {content : Body} (plain : ∀ entry ∈ content, IsPlain entry)
    (path : List Key) : ∀ line ∈ bodyLines path content, line.IsWritten := by
  induction content with
  | nil =>
    rw [bodyLines]
    exact List.forall_mem_nil _
  | cons entry content ih =>
    rw [List.forall_mem_cons] at plain
    rw [← List.singleton_append, bodyLines_append]
    refine List.forall_mem_append.2 ⟨?_, ih plain.2⟩
    cases plain.1 with
    | blank layout =>
      rw [bodyLines, bodyLines, List.append_nil, List.forall_mem_map]
      exact isWritten_cutLines layout
    | comment written =>
      rw [bodyLines, bodyLines]
      exact List.forall_mem_singleton.2 written
    | value _ written =>
      rw [bodyLines_value, bodyLines]
      exact List.forall_mem_singleton.2 written

theorem forall_tableItems {path : List Key} {tables : List (Slot × Item)} {p : Line → Prop}
    (each : ∀ entry ∈ tables, ∀ line ∈ itemLines path entry.1 entry.2, p line) :
    ∀ line ∈ bodyLines path (tableItems tables), p line := by
  induction tables with
  | nil =>
    rw [tableItems, List.map_nil, bodyLines]
    exact List.forall_mem_nil _
  | cons entry tables ih =>
    rw [List.forall_mem_cons] at each
    rw [tableItems, List.map_cons, bodyLines]
    exact List.forall_mem_append.2 ⟨each.1, ih each.2⟩

/-- The lines of a table are read from their text wherever the table stands. -/
theorem isWritten_whole {item : Item} (whole : item.IsWhole) {path : List Key}
    (keyed : ∀ key ∈ path, key.IsWritten) {slot : Slot} (heads : slot.Heads) :
    ∀ line ∈ itemLines path slot item, line.IsWritten := by
  induction whole generalizing path slot with
  | headed own alone indent ends plain inner whole distinct ih =>
    have longer : ∀ key ∈ path ++ [slot.key], key.IsWritten :=
      List.forall_mem_append.2 ⟨keyed, List.forall_mem_singleton.2 heads.written⟩
    rw [itemLines, headerLines, own, if_neg (by simp), bodyLines_append]
    refine List.forall_mem_append.2
      ⟨List.forall_mem_singleton.2 ?_, List.forall_mem_append.2 ⟨?_, ?_⟩⟩
    · exact .header indent (by simp) longer ends
    · exact isWritten_plain plain _
    · exact forall_tableItems fun entry listed => ih entry listed longer (inner entry listed)
  | implied way alone indent filled inner whole distinct ih =>
    have longer : ∀ key ∈ path ++ [slot.key], key.IsWritten :=
      List.forall_mem_append.2 ⟨keyed, List.forall_mem_singleton.2 heads.written⟩
    rw [itemLines, headerLines, way, if_pos rfl, List.nil_append]
    exact forall_tableItems fun entry listed => ih entry listed longer (inner entry listed)

/-- A document of which every table stands in one place: its values come first, then its tables, and
only the last line may lack its line feed. -/
inductive Body.IsWhole : Body → Prop
  | intro {content : Body} {tables : List (Slot × Item)} (plain : ∀ entry ∈ content, IsPlain entry)
    (heads : ∀ entry ∈ tables, entry.1.Heads) (whole : ∀ entry ∈ tables, entry.2.IsWhole)
    (distinct : (slotNames (content ++ tableItems tables)).Nodup)
    (closed : IsClosed (bodyLines [] (content ++ tableItems tables))) :
    IsWhole (content ++ tableItems tables)

/-! ### Text -/

/-- Whether tables show the paths that lead to them. -/
inductive Item.FollowsPath : Item → Prop
  | plain {item : Item} (noTable : item.isTabular = false) : FollowsPath item
  | table {head : Head} {entries : Body} (own : head.shownPath = none)
    (inner : ∀ entry ∈ entries, entry.2.FollowsPath) : FollowsPath (.table head entries)

/-- The text of a path that leads below the top. -/
def pathText? (path : List Key) : Option (List Char) :=
  if path.isEmpty then none else some (pathText path)

theorem below_pathText? (path : List Key) (key : Key) :
    below (pathText? path) key.written = pathText (path ++ [key]) := by
  cases path with
  | nil => simp [pathText?, below, pathText]
  | cons first path => exact (pathText_concat (List.cons_ne_nil first path) key).symm

theorem entriesText_plain (path : List Char) (keys : List Key) {content : Body}
    (plain : ∀ entry ∈ content, IsPlain entry) :
    entriesText false path content = (bodyLines keys content).flatMap Line.text := by
  induction content with
  | nil => simp [entriesText, bodyLines]
  | cons entry content ih =>
    rw [List.forall_mem_cons] at plain
    have later := ih plain.2
    cases plain.1 with
    | @blank text _ =>
      have cut : ((cutLines text).map Line.blank).flatMap Line.text = text := by
        have same : Line.text ∘ Line.blank = id := rfl
        rw [List.flatMap, List.map_map, same, List.map_id, flatten_cutLines]
      rw [entriesText, bodyLines, List.flatMap_append, cut, later]
    | comment _ =>
      rw [entriesText, bodyLines, List.flatMap_cons, later]
      rfl
    | @value slot sort text margin single _ =>
      have line : (slot.line (.value sort text margin)).text =
          Item.text none slot (.value sort text margin) := by
        have key : slot.separator.takeWhile isSpacing ++ slot.separator.dropWhile isSpacing =
            slot.separator := List.takeWhile_append_dropWhile
        calc (slot.line (.value sort text margin)).text
          _ = margin.indent ++ slot.key.written ++ (slot.separator.takeWhile isSpacing ++
                slot.separator.dropWhile isSpacing) ++ text ++ margin.behind := by
            simp [Slot.line, Slot.asRead, Line.text, pathText, Item.margin, Item.valueText]
          _ = Item.text none slot (.value sort text margin) := by
            rw [key]
            simp [Item.text, below, Margin.behind]
      have place : pathFor false path slot (.value sort text margin) = none := rfl
      rw [entriesText, bodyLines_value, List.flatMap_cons, line, place, later]

theorem itemLines_ne_nil {item : Item} (whole : item.IsWhole) (path : List Key) (slot : Slot) :
    itemLines path slot item ≠ [] := by
  induction whole generalizing path slot with
  | headed own =>
    rw [itemLines, headerLines, own]
    simp
  | @implied head tables way _ _ filled _ _ _ ih =>
    obtain ⟨entry, tables, rfl⟩ := List.exists_cons_of_ne_nil filled
    have first := ih entry List.mem_cons_self (path ++ [slot.key]) entry.1
    rw [itemLines, headerLines, way, tableItems, List.map_cons, bodyLines]
    simp [first]

/-- Where a body has no lines, it has no keys. -/
theorem keyless_of_bodyLines_eq_nil {body : Body} {path : List Key}
    (whole : ∀ entry ∈ body, IsPlain entry ∨ entry.2.IsWhole)
    (none : bodyLines path body = []) : ∀ entry ∈ body, entry.1 = Option.none := by
  induction body with
  | nil => exact List.forall_mem_nil _
  | cons entry body ih =>
    rw [List.forall_mem_cons] at whole
    have later : bodyLines path body = [] := by
      rw [← List.singleton_append, bodyLines_append, List.append_eq_nil_iff] at none
      exact none.2
    refine List.forall_mem_cons.2 ⟨?_, ih whole.2 later⟩
    obtain ⟨slot, item⟩ := entry
    cases slot with
    | none => rfl
    | some slot =>
      rw [bodyLines, List.append_eq_nil_iff] at none
      rcases whole.1 with plain | whole
      · cases plain
        cases none.1
      · exact absurd none.1 (itemLines_ne_nil whole path slot)

/-- A header has its own line, also where it ends the document. -/
theorem tableHeader_headed {head : Head} (own : head.onWay = some false)
    (alone : head.inArray = false) (path : List Key) {body : Body}
    (whole : ∀ entry ∈ body, IsPlain entry ∨ entry.2.IsWhole)
    (closed : IsClosed (headerLines path head ++ bodyLines path body)) :
    tableHeader head false (pathText path) body =
      (headerLines path head).flatMap Line.text := by
  have header : headerLines path head =
      [.header { path, inArray := false, margin := head.margin }] := by
    rw [headerLines, own, if_neg (by simp)]
  have ended :
      (head.margin.ending.contains '\n' || body.all fun entry => entry.1.isNone) = true := by
    rw [Bool.or_eq_true]
    by_cases more : bodyLines path body = []
    · refine .inr (List.all_eq_true.2 fun entry listed => ?_)
      rw [keyless_of_bodyLines_eq_nil whole more entry listed]
      rfl
    · have closes : Closes head.margin.ending :=
        closed.left more (.header { path, inArray := false, margin := head.margin })
          (by rw [header]; exact List.mem_singleton_self _)
      exact .inl (List.contains_iff_mem.2 (List.mem_of_mem_getLast? closes))
  rw [header, tableHeader, Head.isOnWay, own, Option.getD_some, Bool.not_false, Bool.true_or,
    if_pos rfl, ended, if_pos rfl, alone]
  simp [Line.text]

theorem tableHeader_implied {head : Head} (way : head.onWay = some true)
    (indent : IsGap head.margin.indent) (path : List Char) {tables : List (Slot × Item)}
    (whole : ∀ entry ∈ tables, entry.2.IsWhole) :
    tableHeader head false path (tableItems tables) = [] := by
  have tabular : ((tableItems tables).any fun entry =>
      !entry.2.isTabular && !entry.2.isBlank) = false := by
    rw [List.any_eq_false]
    intro entry listed
    obtain ⟨table, member, rfl⟩ := List.mem_map.1 listed
    obtain ⟨head, entries, shape⟩ := (whole table member).exists_table
    simp [shape, Item.isTabular]
  have noFeed : (head.margin.indent == ['\n']) = false := by
    rw [beq_eq_false_iff_ne]
    intro same
    rw [same] at indent
    cases indent '\n' List.mem_cons_self
  rw [tableHeader, Head.isOnWay, way, Option.getD_some, tabular, noFeed]
  rfl

theorem entriesText_tables {path : List Key} {tables : List (Slot × Item)}
    (heads : ∀ entry ∈ tables, entry.1.Heads) (whole : ∀ entry ∈ tables, entry.2.IsWhole)
    (each : ∀ entry ∈ tables, IsClosed (itemLines path entry.1 entry.2) →
      entry.2.text (some (pathText path)) entry.1 =
        (itemLines path entry.1 entry.2).flatMap Line.text)
    (closed : IsClosed (bodyLines path (tableItems tables))) :
    entriesText false (pathText path) (tableItems tables) =
      (bodyLines path (tableItems tables)).flatMap Line.text := by
  induction tables with
  | nil => simp [tableItems, entriesText, bodyLines]
  | cons entry tables ih =>
    rw [List.forall_mem_cons] at heads whole each
    have split : bodyLines path (tableItems (entry :: tables)) =
        itemLines path entry.1 entry.2 ++ bodyLines path (tableItems tables) := by
      rw [tableItems, List.map_cons, bodyLines]
      rfl
    rw [split] at closed ⊢
    have place : pathFor false (pathText path) entry.1 entry.2 = some (pathText path) := by
      obtain ⟨head, entries, table⟩ := whole.1.exists_table
      rw [table, pathFor, heads.1.single, Bool.and_false, Bool.false_and,
        if_neg Bool.false_ne_true]
    rw [tableItems, List.map_cons, entriesText, place, each.1 closed.front, List.flatMap_append]
    exact congrArg _ (ih heads.2 whole.2 each.2 closed.right)

/-- The text of a table that shows its path is that of its lines. -/
theorem text_whole {item : Item} (whole : item.IsWhole) (follows : item.FollowsPath)
    (path : List Key) {slot : Slot} (single : slot.dotted = false)
    (closed : IsClosed (itemLines path slot item)) :
    item.text (pathText? path) slot = (itemLines path slot item).flatMap Line.text := by
  induction whole generalizing path slot with
  | @headed head content tables own alone indent ends plain heads whole distinct ih =>
    cases follows with
    | plain noTable => cases noTable
    | table shown inner =>
      have all : ∀ entry ∈ content ++ tableItems tables, IsPlain entry ∨ entry.2.IsWhole := by
        intro entry listed
        rcases List.mem_append.1 listed with early | late
        · exact .inl (plain entry early)
        · obtain ⟨table, member, rfl⟩ := List.mem_map.1 late
          exact .inr (whole table member)
      have named : pathText? (path ++ [slot.key]) = some (pathText (path ++ [slot.key])) := by
        simp [pathText?]
      rw [itemLines] at closed ⊢
      have header := tableHeader_headed own alone (path ++ [slot.key]) all closed
      have tablesText := entriesText_tables heads whole (fun entry listed => by
        have follows := inner (some entry.1, entry.2)
          (List.mem_append_right _ (List.mem_map.2 ⟨entry, listed, rfl⟩))
        have text := ih entry listed follows (path ++ [slot.key]) (heads entry listed).single
        rwa [named] at text) (by
          rw [bodyLines_append, ← List.append_assoc] at closed
          exact closed.right)
      rw [Item.text, shown, Option.getD_none, single, below_pathText?]
      rw [header, entriesText_append, entriesText_plain _ (path ++ [slot.key]) plain, tablesText,
        bodyLines_append, List.flatMap_append, List.flatMap_append]
  | @implied head tables way alone indent filled heads whole distinct ih =>
    cases follows with
    | plain noTable => cases noTable
    | table shown inner =>
      have named : pathText? (path ++ [slot.key]) = some (pathText (path ++ [slot.key])) := by
        simp [pathText?]
      have none : headerLines (path ++ [slot.key]) head = [] := by rw [headerLines, way, if_pos rfl]
      rw [itemLines, none, List.nil_append] at closed ⊢
      have tablesText := entriesText_tables heads whole (fun entry listed => by
        have follows := inner (some entry.1, entry.2) (List.mem_map.2 ⟨entry, listed, rfl⟩)
        have text := ih entry listed follows (path ++ [slot.key]) (heads entry listed).single
        rwa [named] at text) closed
      rw [Item.text, shown, Option.getD_none, single, below_pathText?]
      rw [tableHeader_implied way indent _ whole, tablesText, List.nil_append]

end TypstMarkup.Toml
