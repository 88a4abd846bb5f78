import TypstMarkup.Proofs.Toml.Grafted

/-!
Whole documents put together from their lines. A table takes the lines up to the next header, and
then the tables below it; the headers that follow one another below a name are read as one table, as
they stand in the document. So what is put together says what the document says.
-/
namespace TypstMarkup.Toml

/-! ### Lines before headers -/

/-- Whether lines start with a header, if there are any. -/
def AtHeader (ls : List Line) : Prop :=
  ls = [] ∨ ∃ opening more, ls = .header opening :: more

theorem fill?_atHeader {ls : List Line} (ahead : AtHeader ls) (room : Nat) (inTable : Bool)
    (body : Body) : fill? room inTable body ls = .ok (body, ls) := by
  rcases ahead with rfl | ⟨opening, more, rfl⟩ <;> rfl

/-- Values, comments and blank lines with the names, the contents and the line ends of others. -/
structure Matches (filled content : Body) : Prop where
  plain : ∀ entry ∈ filled, IsPlain entry
  slotNames_eq : slotNames filled = slotNames content
  contents_eq : contents filled = contents content
  endings_eq : endings filled = endings content

theorem Matches.behind {body grown filled content : Body} {entry : Option Slot × Item}
    (first : Matches grown (body ++ [entry])) (later : Matches filled (grown ++ content)) :
    Matches filled (body ++ entry :: content) := by
  rw [List.append_cons]
  refine ⟨later.plain, ?_, ?_, ?_⟩
  · rw [later.slotNames_eq, slotNames_append, slotNames_append, first.slotNames_eq]
  · rw [later.contents_eq, contents_append, contents_append, first.contents_eq]
  · rw [later.endings_eq, endings_append, endings_append, first.endings_eq]

theorem endings_blank (text : List Char) : endings [(none, .blank text)] = cutLines text := by
  rw [endings, bodyLines, bodyLines, List.append_nil, List.map_map]
  exact List.map_id _

/-- A blank of which all lines end with line feeds is empty or does so itself. -/
theorem closes_of_cutLines {text : List Char} (closes : ∀ line ∈ cutLines text, Closes line) :
    text = [] ∨ Closes text := by
  have whole := flatten_cutLines text
  rcases List.eq_nil_or_concat' (cutLines text) with none | ⟨front, line, some⟩
  · rw [none] at whole
    exact .inl whole.symm
  · rw [some, List.forall_mem_append, List.forall_mem_singleton] at closes
    rw [some, List.flatten_append, List.flatten_singleton] at whole
    refine .inr ?_
    rw [Closes, ← whole, List.getLast?_append, closes.2]
    rfl

theorem matches_addPlain_blank {body : Body} (plain : ∀ entry ∈ body, IsPlain entry)
    (closes : ∀ ending ∈ endings body, Closes ending) {text : List Char} (layout : IsLayout text) :
    Matches (Body.addPlain (.blank text) body) (body ++ [(none, .blank text)]) := by
  rw [Body.addPlain.eq_def]
  split
  · rename_i other before same last
    cases same
    obtain ⟨front, rfl⟩ := List.getLast?_eq_some_iff.1 last
    rw [List.forall_mem_append, List.forall_mem_singleton] at plain
    rw [endings_append, List.forall_mem_append, endings_blank] at closes
    have joined : IsPlain (none, .blank (before ++ text)) := by
      cases plain.2 with
      | blank beforeLayout => exact .blank (List.forall_mem_append.2 ⟨beforeLayout, layout⟩)
    rw [List.dropLast_concat]
    refine ⟨List.forall_mem_append.2 ⟨plain.1, List.forall_mem_singleton.2 joined⟩, ?_, ?_, ?_⟩
    · simp [slotNames]
    · simp [contents_append, contents]
    · simp only [endings_append, endings_blank,
        cutLines_append (closes_of_cutLines closes.2), List.append_assoc]
  · exact ⟨List.forall_mem_append.2 ⟨plain, List.forall_mem_singleton.2 (.blank layout)⟩, rfl, rfl,
      rfl⟩

theorem fill?_blanks {texts : List (List Char)}
    (written : ∀ text ∈ texts, (Line.blank text).IsWritten)
    (closed : ∀ text ∈ texts.dropLast, Closes text) (room : Nat) (inTable : Bool) {body : Body}
    (plain : ∀ entry ∈ body, IsPlain entry)
    (closes : texts ≠ [] → ∀ ending ∈ endings body, Closes ending) (later : List Line) :
    ∃ filled, fill? room inTable body (texts.map .blank ++ later) =
        fill? room inTable filled later ∧
      (∀ entry ∈ filled, IsPlain entry) ∧ slotNames filled = slotNames body ∧
        contents filled = contents body ∧ endings filled = endings body ++ texts := by
  induction texts generalizing body with
  | nil => exact ⟨body, rfl, plain, rfl, rfl, (List.append_nil _).symm⟩
  | cons text texts ih =>
    rw [List.forall_mem_cons] at written
    obtain ⟨layout, single⟩ := written.1.layout
    have first := matches_addPlain_blank plain (closes (List.cons_ne_nil _ _)) layout
    have ends : endings (Body.addPlain (.blank text) body) = endings body ++ [text] := by
      rw [first.endings_eq, endings_append, endings_blank, single]
    obtain ⟨filled, same, grown, names, kept, endsFilled⟩ := ih written.2
      (fun other listed => by
        cases texts with
        | nil => cases listed
        | cons next texts => exact closed other (List.mem_cons_of_mem _ listed))
      first.plain (fun more => by
        rw [ends]
        refine List.forall_mem_append.2 ⟨closes (List.cons_ne_nil _ _), ?_⟩
        obtain ⟨next, texts, rfl⟩ := List.exists_cons_of_ne_nil more
        exact List.forall_mem_singleton.2 (closed text List.mem_cons_self))
    refine ⟨filled, same, grown, ?_, ?_, ?_⟩
    · rw [names, first.slotNames_eq]
      simp [slotNames]
    · rw [kept, first.contents_eq]
      simp [contents_append, contents]
    · rw [endsFilled, ends, List.append_assoc]
      rfl

theorem matches_concat {body : Body} (plain : ∀ entry ∈ body, IsPlain entry)
    {entry : Option Slot × Item} (last : IsPlain entry) :
    Matches (body ++ [entry]) (body ++ [entry]) :=
  ⟨List.forall_mem_append.2 ⟨plain, List.forall_mem_singleton.2 last⟩, rfl, rfl, rfl⟩

/-- A value is added under the key that is read from its line. -/
theorem fill?_value {slot : Slot} {sort : ValueSort} {text : List Char} {margin : Margin}
    (written : (slot.line (.value sort text margin)).IsWritten) (later : List Line) (room : Nat)
    (inTable : Bool) {body : Body} (plain : ∀ entry ∈ body, IsPlain entry)
    (distinct : (slotNames body ++ [slot.key.name]).Nodup) :
    ∃ grown, fill? (room + 1) inTable body (slot.line (.value sort text margin) :: later) =
        fill? (room + 1) inTable grown later ∧
      Matches grown (body ++ [(some slot, .value sort text margin)]) := by
  have again : slot.asRead.line (.value sort text margin) =
      slot.line (.value sort text margin) := by
    rw [Slot.line, Slot.line, slot.asRead_asRead]
  have ends (slot : Slot) : endings [(some slot, .value sort text margin)] = [margin.ending] := by
    rw [endings, bodyLines_value, bodyLines]
    rfl
  have names (slot : Slot) : slotNames (body ++ [(some slot, .value sort text margin)]) =
      slotNames body ++ [slot.key.name] := slotNames_append _ _
  obtain ⟨old, -, apart⟩ := List.nodup_append.1 distinct
  have fresh : slot.key.name ∉ slotNames body := fun member =>
    apart _ member _ List.mem_cons_self rfl
  have added : Body.addPath? (room + 1) (!inTable) [slot.asRead.key] slot.asRead.separator
      (.value sort text margin) body =
        .ok (body ++ [(some slot.asRead, .value sort text margin)]) :=
    add?_new old slot.asRead fresh room _ _
  have longer : (slotNames (body ++ [(some slot.asRead, .value sort text margin)])).Nodup :=
    names slot.asRead ▸ distinct
  have checked := checkName_eq_ok longer (room + 1) slot.asRead.key.name
  have last : IsPlain (some slot.asRead, .value sort text margin) := .value rfl (by rwa [again])
  refine ⟨body ++ [(some slot.asRead, .value sort text margin)], ?_,
    (matches_concat plain last).plain, ?_, ?_, ?_⟩
  · rw [Slot.line, fill?, added]
    cases inTable with
    | true =>
      simp only [bind, Except.bind, if_true, List.head?_cons, Option.map_some, Option.getD_some,
        checked]
    | false => rfl
  · exact (names slot.asRead).trans (names slot).symm
  · rw [contents_append, contents_append, contents, contents]
    rfl
  · rw [endings_append, endings_append, ends, ends]

/-- What stands before the first header is added line by line. -/
theorem fill?_entry {entry : Option Slot × Item} (plain : IsPlain entry) (path : List Key)
    (later : List Line) (room : Nat) (inTable : Bool) {body : Body}
    (plainBody : ∀ other ∈ body, IsPlain other)
    (closes : bodyLines path [entry] ≠ [] → ∀ ending ∈ endings body, Closes ending)
    (closed : IsClosed (bodyLines path [entry])) (distinct : (slotNames (body ++ [entry])).Nodup) :
    ∃ grown, fill? (room + 1) inTable body (bodyLines path [entry] ++ later) =
        fill? (room + 1) inTable grown later ∧ Matches grown (body ++ [entry]) := by
  cases plain with
  | @blank text layout =>
    have lines : bodyLines path [(none, .blank text)] = (cutLines text).map .blank := by
      rw [bodyLines, bodyLines, List.append_nil]
    rw [lines] at closes closed ⊢
    have front : ∀ line ∈ (cutLines text).dropLast, Closes line := fun line listed =>
      closed (.blank line) (by
        rw [← List.map_dropLast]
        exact List.mem_map_of_mem listed)
    obtain ⟨grown, same, plainGrown, names, kept, ends⟩ :=
      fill?_blanks (isWritten_cutLines layout) front (room + 1) inTable plainBody
        (fun more => closes (by simp [more])) later
    refine ⟨grown, same, plainGrown, ?_, ?_, ?_⟩
    · rw [names]
      simp [slotNames]
    · rw [kept]
      simp [contents_append, contents]
    · rw [ends, endings_append, endings_blank]
  | @comment text written =>
    have added : Body.addPlain (.comment text) body = body ++ [(none, .comment text)] := by
      rw [Body.addPlain.eq_def]
    rw [bodyLines, bodyLines, List.singleton_append, fill?, added]
    exact ⟨_, rfl, matches_concat plainBody (.comment written)⟩
  | value single written =>
    rw [slotNames_append] at distinct
    rw [bodyLines_value, bodyLines]
    exact fill?_value written later room inTable plainBody distinct

/-- The values before the first header are added as they stand. -/
theorem fill?_plain {content : Body} (plain : ∀ entry ∈ content, IsPlain entry) (path : List Key)
    {later : List Line} (ahead : AtHeader later) (room : Nat) (inTable : Bool) {body : Body}
    (plainBody : ∀ entry ∈ body, IsPlain entry)
    (closes : bodyLines path content ≠ [] → ∀ ending ∈ endings body, Closes ending)
    (closed : IsClosed (bodyLines path content))
    (distinct : (slotNames body ++ slotNames content).Nodup) :
    ∃ filled, fill? (room + 1) inTable body (bodyLines path content ++ later) =
      .ok (filled, later) ∧ Matches filled (body ++ content) := by
  induction content generalizing body with
  | nil =>
    rw [bodyLines, List.append_nil]
    exact ⟨body, fill?_atHeader ahead _ _ _, plainBody, rfl, rfl, rfl⟩
  | cons entry content ih =>
    rw [List.forall_mem_cons] at plain
    rw [← List.singleton_append, bodyLines_append] at closes closed
    rw [← List.singleton_append, slotNames_append, ← List.append_assoc, ← slotNames_append]
      at distinct
    obtain ⟨grown, same, first⟩ := fill?_entry plain.1 path (bodyLines path content ++ later) room
      inTable plainBody (fun more => closes (by simp [more])) closed.front
      (List.nodup_append.1 distinct).1
    have ends : endings [entry] = (bodyLines path [entry]).map Line.ending :=
      ending_bodyLines [] path [entry]
    obtain ⟨filled, read, matched⟩ := ih plain.2 first.plain (fun more => by
      rw [first.endings_eq, endings_append, ends]
      exact List.forall_mem_append.2
        ⟨closes (by simp [more]), List.forall_mem_map.2 (closed.left more)⟩)
      closed.right (by rwa [first.slotNames_eq])
    refine ⟨filled, ?_, first.behind matched⟩
    rw [← List.singleton_append, bodyLines_append, List.append_assoc, same, read]

/-! ### Lines of tables -/

def headers (ls : List Line) : List Opening :=
  ls.filterMap fun line =>
    match line with
    | .header opening => some opening
    | _ => none

theorem headers_append (first later : List Line) :
    headers (first ++ later) = headers first ++ headers later :=
  List.filterMap_append

/-- The lines of a table with a header of its own, at a path. -/
def tableLines (path : List Key) (head : Head) (entries : Body) : List Line :=
  .header { path, inArray := false, margin := head.margin } :: bodyLines path entries

/-- The lines of a table, below a path. -/
def Block.lines (path : List Key) (block : Block) : List Line :=
  tableLines (path ++ block.keys) block.head block.entries

theorem AtHeader.blocks {later : List Line} (ahead : AtHeader later) (path : List Key)
    (blocks : List Block) : AtHeader (blocks.flatMap (Block.lines path) ++ later) := by
  cases blocks with
  | nil => exact ahead
  | cons block blocks => exact .inr ⟨_, _, rfl⟩

theorem bodyLines_tableItems {path : List Key} {tables : List (Slot × Item)}
    (each : ∀ entry ∈ tables,
      itemLines path entry.1 entry.2 = (itemBlocks entry.1 entry.2).flatMap (Block.lines path)) :
    bodyLines path (tableItems tables) =
      (bodyBlocks (tableItems tables)).flatMap (Block.lines path) := by
  induction tables with
  | nil => simp [tableItems, bodyLines, bodyBlocks]
  | cons entry tables ih =>
    rw [List.forall_mem_cons] at each
    rw [tableItems, List.map_cons, bodyLines, bodyBlocks, List.flatMap_append, each.1]
    exact congrArg _ (ih each.2)

/-- The lines of a whole item are those of the tables with headers in it. -/
theorem itemLines_eq {item : Item} (whole : item.IsWhole) (path : List Key) (slot : Slot) :
    itemLines path slot item = (itemBlocks slot item).flatMap (Block.lines path) := by
  induction whole generalizing path slot with
  | headed own =>
    rw [itemLines, headerLines, itemBlocks, own, if_neg (by simp), if_neg (by simp),
      List.flatMap_singleton]
    rfl
  | @implied head tables way _ _ _ _ _ _ ih =>
    rw [itemLines, headerLines, itemBlocks, way, if_pos rfl, if_pos rfl, List.nil_append,
      bodyLines_tableItems fun entry listed => ih entry listed _ _, List.flatMap_map]
    refine List.flatMap_congr fun block _ => ?_
    simp [Block.lines, Block.under]

/-- Whether lines start with a header that does not lead below a path, if there are any. -/
def Leaves (path : List String) (ls : List Line) : Prop :=
  ls = [] ∨ ∃ opening more, ls = .header opening :: more ∧ ¬path <+: opening.names

theorem Leaves.atHeader {path : List String} {ls : List Line} (leaves : Leaves path ls) :
    AtHeader ls := by
  rcases leaves with none | ⟨opening, more, shape, -⟩
  · exact .inl none
  · exact .inr ⟨opening, more, shape⟩

theorem Leaves.longer {path : List String} {ls : List Line} (leaves : Leaves path ls)
    (more : List String) : Leaves (path ++ more) ls := by
  rcases leaves with none | ⟨opening, rest, shape, apart⟩
  · exact .inl none
  · exact .inr ⟨opening, rest, shape, fun within => apart ((List.prefix_append _ _).trans within)⟩

/-! ### Tables -/

/-- A table on the way to others holds what is to come behind it. -/
theorem Fits.behind {key : Key} (written : key.IsWritten) {head : Head}
    (way : head.onWay = some true) (alone : head.inArray = false)
    (indent : IsGap head.margin.indent) {path : List String} (filled : path ≠ [])
    {entries : List (String × Content)} {inner : Body} (fits : Fits inner (branch path entries)) :
    Fits [(some { key }, .table head inner)] (branch (key.name :: path) entries) := by
  obtain ⟨name, shape, stem⟩ := exists_branch filled entries
  rw [branch_cons filled]
  refine .way ⟨rfl, written⟩ way alone indent ?_ ?_ fits .nil
  · rw [stem]
    exact List.cons_ne_nil _ _
  · rw [stem]
    exact List.pairwise_singleton _ _

theorem fits_wayTo {head : Head} {entries : Body} (own : head.onWay = some false)
    (whole : (Item.table head entries).IsWhole) {margin : Margin} (indent : IsGap margin.indent)
    {key : Key} {rest : List Key} (keyed : ∀ other ∈ key :: rest, other.IsWritten) :
    Fits [(some { key }, wayTo margin (.table head entries) rest)]
        (branch ((key :: rest).map Key.name) (contents entries)) ∧
      endings [(some { key }, wayTo margin (.table head entries) rest)] =
        head.margin.ending :: endings entries := by
  induction rest generalizing key with
  | nil =>
    exact ⟨.own ⟨rfl, keyed key List.mem_cons_self⟩ own whole .nil, endings_own own _ _⟩
  | cons next rest ih =>
    rw [List.forall_mem_cons] at keyed
    obtain ⟨fits, ends⟩ := ih keyed.2
    exact ⟨fits.behind keyed.1 rfl rfl indent (List.cons_ne_nil _ _),
      (endings_way rfl _ _).trans ends⟩

/-- The table of a header, placed below the tables on the way to it. -/
theorem fits_placed (opening : Opening) (single : opening.inArray = false)
    (indent : IsGap opening.margin.indent) (arrays : List (List String)) {keys : List Key}
    (filled : keys ≠ []) (keyed : ∀ key ∈ keys, key.IsWritten) {head : Head} {entries : Body}
    (own : head.onWay = some false) (whole : (Item.table head entries).IsWhole) :
    Fits [(some { key := keys.headD (.ofName "") },
        placed opening arrays keys (.table head entries))]
          (branch (keys.map Key.name) (contents entries)) ∧
      endings [(some { key := keys.headD (.ofName "") },
        placed opening arrays keys (.table head entries))] =
          head.margin.ending :: endings entries := by
  match keys with
  | [key] => exact fits_wayTo own whole indent keyed
  | first :: next :: rest =>
    rw [List.forall_mem_cons] at keyed
    obtain ⟨fits, ends⟩ := fits_wayTo own whole indent keyed.2
    have close : IsGap [] := List.forall_mem_nil _
    rw [placed, single]
    exact ⟨fits.behind keyed.1 rfl rfl close (List.cons_ne_nil _ _),
      (endings_way rfl _ _).trans ends⟩

/-- Whether the lines of a table are read as a whole one that says the same, wherever it stands. -/
structure Block.IsRead (block : Block) : Prop where
  keyed : ∀ key ∈ block.keys, key.IsWritten
  read {path : List Key} {later : List Line} (keyed : ∀ key ∈ path, key.IsWritten)
    (leaves : Leaves (path.map Key.name) later)
    (closed : IsClosed (tableLines path block.head block.entries)) {room budget : Nat}
    (outer : List String) (arrays : List (List String)) (inner : outer.length < path.length)
    (roomy : ∀ opening ∈ headers (tableLines path block.head block.entries),
      2 * opening.path.length ≤ room)
    (enough : 2 * (headers (tableLines path block.head block.entries)).length ≤ budget) :
    ∃ key item, Toml.section? room budget outer arrays
        (tableLines path block.head block.entries ++ later) = .ok (key, item, later) ∧
      Fits [(some { key }, item)]
        (branch ((path.drop outer.length).map Key.name) (contents block.entries)) ∧
      endings [(some { key }, item)] =
        (tableLines path block.head block.entries).map Line.ending

/-- A table that is read is grafted into those before it. -/
theorem Block.IsRead.exists_added {block : Block} (read : block.IsRead) {path : List Key}
    (keyed : ∀ key ∈ path, key.IsWritten) {later : List Line}
    (leaves : Leaves ((path ++ block.keys).map Key.name) later)
    (closed : IsClosed (block.lines path)) {tables between : List (String × Shape)}
    (graft : Graft tables block.names (contents block.entries) between) (content : Body)
    {body : Body} (fits : Fits body tables)
    (distinct : (slotNames content ++ between.map Prod.fst).Nodup) {room budget : Nat}
    (roomy : ∀ opening ∈ headers (block.lines path), 2 * opening.path.length ≤ room)
    (enough : 2 * (headers (block.lines path)).length ≤ budget) (arrays : List (List String))
    (checks : Bool) :
    ∃ key item grown, Toml.section? room budget (path.map Key.name) arrays
        (block.lines path ++ later) = .ok (key, item, later) ∧
      add? room checks { key } item (content ++ body) = .ok (content ++ grown) ∧
      Fits grown between ∧
      endings grown = endings body ++ (block.lines path).map Line.ending := by
  have positive : 0 < block.keys.length := by
    rw [← List.length_map Key.name]
    exact List.length_pos_iff.2 graft.ne_nil
  obtain ⟨key, item, opened, fitsItem, endsItem⟩ := read.read
    (List.forall_mem_append.2 ⟨keyed, read.keyed⟩) leaves closed
    (path.map Key.name) arrays (by rw [List.length_map, List.length_append]; omega) roomy enough
  rw [List.length_map, List.drop_left] at fitsItem
  have own := roomy { path := path ++ block.keys, inArray := false, margin := block.head.margin }
    List.mem_cons_self
  have short : block.keys.length ≤ (path ++ block.keys).length := by
    rw [List.length_append]
    omega
  obtain ⟨grown, added, fitsGrown, ends⟩ := add?_graft graft content fits fitsItem distinct room
    (by rw [Block.names, List.length_map]; dsimp only at own; omega) checks
  rw [endsItem] at ends
  exact ⟨key, item, grown, opened, added, fitsGrown, ends⟩

/-- Where the headers lead elsewhere, no more tables are added. -/
theorem children?_leaves {path : List String} {later : List Line} (leaves : Leaves path later)
    (room budget : Nat) (arrays : List (List String)) (body : Body) :
    children? room (budget + 1) path arrays body later = .ok (body, later) := by
  rw [children?]
  rcases leaves with rfl | ⟨opening, more, rfl, apart⟩
  · rfl
  · have found : (Line.header opening :: more).head?.bind Line.headerPath? =
        some (opening.names, opening.inArray) := rfl
    have elsewhere : path.isPrefixOf opening.names = false := by
      rwa [Bool.eq_false_iff, Ne, List.isPrefixOf_iff_prefix]
    rw [found]
    simp only [elsewhere, Bool.false_and, Bool.false_eq_true, if_false]

theorem leaves_flatMap {path : List Key} {block : Block} {blocks : List Block}
    (apart : ∀ other ∈ blocks, ¬block.names <+: other.names) {later : List Line}
    (leaves : Leaves (path.map Key.name) later) :
    Leaves ((path ++ block.keys).map Key.name) (blocks.flatMap (Block.lines path) ++ later) := by
  cases blocks with
  | nil =>
    rw [List.map_append]
    exact leaves.longer _
  | cons other blocks =>
    refine .inr ⟨_, _, rfl, fun within => apart other List.mem_cons_self ?_⟩
    rw [Opening.names, List.map_append, List.map_append, List.prefix_append_right_inj] at within
    exact within

/-- Tables below a path are added one after the other. -/
theorem children?_blocks {path : List Key} (keyed : ∀ key ∈ path, key.IsWritten)
    (arrays : List (List String)) {blocks : List Block} (read : ∀ block ∈ blocks, block.IsRead)
    (apart : blocks.Pairwise fun first later => ¬first.names <+: later.names)
    (closed : IsClosed (blocks.flatMap (Block.lines path)))
    {later : List Line} (leaves : Leaves (path.map Key.name) later) (content : Body) {body : Body}
    {tables final : List (String × Shape)} (fits : Fits body tables)
    (grafts : Grafts tables blocks final)
    (distinct : (slotNames content ++ final.map Prod.fst).Nodup) {room : Nat}
    (roomy : ∀ opening ∈ headers (blocks.flatMap (Block.lines path)),
      2 * opening.path.length ≤ room) {budget : Nat}
    (enough : 2 * (headers (blocks.flatMap (Block.lines path))).length + 1 ≤ budget) :
    ∃ grown, children? room budget (path.map Key.name) arrays (content ++ body)
        (blocks.flatMap (Block.lines path) ++ later) = .ok (content ++ grown, later) ∧
      Fits grown final ∧
      endings grown = endings body ++ (blocks.flatMap (Block.lines path)).map Line.ending := by
  obtain ⟨budget, rfl⟩ := Nat.exists_eq_add_of_le' (Nat.le_of_add_left_le enough)
  induction grafts generalizing body budget with
  | nil => exact ⟨body, children?_leaves leaves _ _ _ _, fits, (List.append_nil _).symm⟩
  | @cons tables between final block blocks graft grafts ih =>
    rw [List.forall_mem_cons] at read
    rw [List.pairwise_cons] at apart
    rw [List.flatMap_cons] at closed roomy enough ⊢
    rw [headers_append] at roomy enough
    rw [List.forall_mem_append] at roomy
    rw [List.length_append] at enough
    have filled : 0 < (headers (block.lines path)).length := Nat.succ_pos _
    have positive : 0 < block.keys.length := by
      rw [← List.length_map Key.name]
      exact List.length_pos_iff.2 graft.ne_nil
    have between : (slotNames content ++ between.map Prod.fst).Nodup :=
      (List.Sublist.append_left grafts.names_prefix.sublist _).nodup distinct
    obtain ⟨budget, rfl⟩ := Nat.exists_eq_add_of_le' (show 1 ≤ budget by omega)
    obtain ⟨key, item, grown, opened, added, fitsGrown, ends⟩ := read.1.exists_added keyed
      (leaves_flatMap apart.1 leaves) closed.front graft content fits between roomy.1
      (show _ ≤ budget + 1 by omega) arrays false
    have checked : (content ++ grown).checkName room key.name = .ok () := by
      refine checkName_eq_ok ?_ room key.name
      rwa [slotNames_append, fitsGrown.slotNames_eq]
    obtain ⟨done, onward, fitsDone, endsDone⟩ := ih read.2 apart.2 closed.right fitsGrown distinct
      roomy.2 budget (by omega)
    have below : (path.map Key.name).isPrefixOf ((path ++ block.keys).map Key.name) = true := by
      rw [List.isPrefixOf_iff_prefix, List.map_append]
      exact List.prefix_append _ _
    have differs : (path.map Key.name != (path ++ block.keys).map Key.name) = true := by
      rw [bne_iff_ne]
      intro same
      have lengths := congrArg List.length same
      rw [List.length_map, List.length_map, List.length_append] at lengths
      omega
    refine ⟨done, ?_, fitsDone, ?_⟩
    · have found : (block.lines path ++ (blocks.flatMap (Block.lines path) ++ later)).head?.bind
          Line.headerPath? = some ((path ++ block.keys).map Key.name, false) := rfl
      rw [List.append_assoc, children?, found]
      simp only [below, differs, Bool.and_self, if_true, bind, Except.bind, opened, added, checked]
      exact onward
    · rw [endsDone, ends, List.map_append, List.append_assoc]

theorem bodyLines_whole {tables : List (Slot × Item)} (whole : ∀ entry ∈ tables, entry.2.IsWhole)
    (path : List Key) (content : Body) : bodyLines path (content ++ tableItems tables) =
      bodyLines path content ++ (bodyBlocks (tableItems tables)).flatMap (Block.lines path) := by
  rw [bodyLines_append,
    bodyLines_tableItems fun entry listed => itemLines_eq (whole entry listed) path entry.1]

/-- Values and tables that were read one after the other say together what they were written for. -/
theorem Matches.together {filled content grown : Body} {tables : List (Slot × Item)}
    (matched : Matches filled content) (whole : ∀ entry ∈ tables, entry.2.IsWhole)
    (fits : Fits grown (bodyShapes (tableItems tables)))
    (distinct : (slotNames (content ++ tableItems tables)).Nodup) :
    (slotNames (filled ++ grown)).Nodup ∧
      contents (filled ++ grown) = contents (content ++ tableItems tables) := by
  constructor
  · rwa [slotNames_append, matched.slotNames_eq, fits.slotNames_eq, map_fst_bodyShapes,
      ← slotNames_append]
  · rw [contents_append, contents_append, matched.contents_eq, fits.contents_items whole]

/-- The lines of a table with a header of its own are read as what it says, if those of the tables
in it are. -/
theorem isRead_headed {head : Head} (indent : IsGap head.margin.indent)
    (ends : head.margin.IsWritten) {content : Body} {tables : List (Slot × Item)}
    (plain : ∀ entry ∈ content, IsPlain entry) (whole : ∀ entry ∈ tables, entry.2.IsWhole)
    (distinct : (slotNames (content ++ tableItems tables)).Nodup)
    (read : ∀ block ∈ bodyBlocks (tableItems tables), block.IsRead) {keys : List Key}
    (keyed : ∀ key ∈ keys, key.IsWritten) :
    Block.IsRead ⟨keys, head, content ++ tableItems tables⟩ := by
  refine ⟨keyed, ?_⟩
  intro path later keyed leaves closed room budget outer arrays inner roomy enough
  dsimp only at roomy enough closed ⊢
  have lines : tableLines path head (content ++ tableItems tables) =
      [.header { path, inArray := false, margin := head.margin }] ++ (bodyLines path content ++
        (bodyBlocks (tableItems tables)).flatMap (Block.lines path)) := by
    rw [tableLines, bodyLines_whole whole]
    rfl
  rw [lines] at roomy enough closed ⊢
  rw [headers_append, headers_append] at roomy enough
  rw [List.forall_mem_append, List.forall_mem_append] at roomy
  rw [List.length_append, List.length_append] at enough
  have own := roomy.1 { path, inArray := false, margin := head.margin } List.mem_cons_self
  have opened : (headers [.header { path, inArray := false, margin := head.margin }]).length = 1 :=
    rfl
  have apart := distinct
  rw [slotNames_append] at apart
  obtain ⟨distinctContent, distinctTables, -⟩ := List.nodup_append.1 apart
  have ahead := leaves.atHeader.blocks path (bodyBlocks (tableItems tables))
  obtain ⟨room, rfl⟩ := Nat.exists_eq_add_of_le' (show 1 ≤ room by dsimp only at own; omega)
  obtain ⟨budget, rfl⟩ := Nat.exists_eq_add_of_le' (show 1 ≤ budget by omega)
  obtain ⟨filled, reading, matched⟩ := fill?_plain plain path ahead room true
    (List.forall_mem_nil _) (fun _ => List.forall_mem_nil _) closed.right.front distinctContent
  rw [List.nil_append] at matched
  obtain ⟨grown, children, fits, endsGrown⟩ := children?_blocks keyed arrays read
    (pairwise_items whole distinctTables) closed.right.right leaves filled .nil
    (grafts_items whole distinctTables) (by rwa [matched.slotNames_eq, map_fst_bodyShapes])
    roomy.2.2 (show _ ≤ budget by omega)
  obtain ⟨names, same⟩ := matched.together whole fits distinct
  have checked : (filled ++ grown).check (room + 1) = .ok () := check_eq_ok names (room + 1)
  have rest : path.drop outer.length ≠ [] := by
    rw [Ne, List.drop_eq_nil_iff]
    omega
  have table : (Item.table {
      margin := head.margin
      onWay := some false
      shownPath := some (pathText path)
    } (filled ++ grown)).IsWhole := by
    obtain ⟨items, rfl, heads, wholeItems⟩ := fits.exists_whole
    exact .headed rfl rfl indent ends matched.plain heads wholeItems names
  obtain ⟨placed, endsPlaced⟩ := fits_placed { path, inArray := false, margin := head.margin } rfl
    indent arrays rest (fun key listed => keyed key (List.drop_subset _ _ listed)) rfl table
  rw [same] at placed
  refine ⟨_, _, ?_, placed, ?_⟩
  · have path : Opening.names { path, inArray := false, margin := head.margin } =
        path.map Key.name := rfl
    rw [List.append_nil] at children
    rw [List.append_assoc, List.append_assoc, List.singleton_append, Toml.section?]
    simp only [bind, Except.bind, reading, path, children, checked, Bool.and_false, Bool.false_and,
      Bool.false_eq_true, if_false]
    rfl
  · rw [endsPlaced, endings_append, endsGrown, matched.endings_eq, endings,
      ending_bodyLines [] path, List.map_append, List.map_append]
    rfl

/-- The lines of every table in a whole item are read as what it says. -/
theorem isRead_whole {item : Item} (whole : item.IsWhole) {slot : Slot} (heads : slot.Heads) :
    ∀ block ∈ itemBlocks slot item, block.IsRead := by
  induction whole generalizing slot with
  | headed own _ indent ends plain inner whole distinct ih =>
    rw [itemBlocks, own, if_neg (by simp)]
    refine List.forall_mem_singleton.2 (isRead_headed indent ends plain whole distinct
      (fun block listed => ?_) (List.forall_mem_singleton.2 heads.written))
    obtain ⟨entry, member, inside⟩ := exists_of_mem_bodyBlocks listed
    exact ih entry member (inner entry member) block inside
  | implied way _ _ _ inner whole distinct ih =>
    rw [itemBlocks, way, if_pos rfl, List.forall_mem_map]
    intro block listed
    obtain ⟨entry, member, inside⟩ := exists_of_mem_bodyBlocks listed
    have read := ih entry member (inner entry member) block inside
    exact ⟨List.forall_mem_cons.2 ⟨heads.written, read.keyed⟩, read.read⟩

/-! ### Documents -/

/-- The tables of a document are added one after the other. -/
theorem tables?_blocks {blocks : List Block} (read : ∀ block ∈ blocks, block.IsRead)
    (apart : blocks.Pairwise fun first later => ¬first.names <+: later.names)
    (closed : IsClosed (blocks.flatMap (Block.lines []))) (content : Body) {body : Body}
    {tables final : List (String × Shape)} (fits : Fits body tables)
    (grafts : Grafts tables blocks final)
    (distinct : (slotNames content ++ final.map Prod.fst).Nodup) {room : Nat}
    (roomy : ∀ opening ∈ headers (blocks.flatMap (Block.lines [])), 2 * opening.path.length ≤ room)
    {budget : Nat}
    (enough : 2 * (headers (blocks.flatMap (Block.lines []))).length + 1 ≤ budget) :
    ∃ grown, tables? room budget (content ++ body) (blocks.flatMap (Block.lines [])) =
        .ok (content ++ grown) ∧
      Fits grown final ∧
      endings grown = endings body ++ (blocks.flatMap (Block.lines [])).map Line.ending := by
  obtain ⟨budget, rfl⟩ := Nat.exists_eq_add_of_le' (Nat.le_of_add_left_le enough)
  induction grafts generalizing body budget with
  | nil => exact ⟨body, rfl, fits, (List.append_nil _).symm⟩
  | @cons tables between final block blocks graft grafts ih =>
    rw [List.forall_mem_cons] at read
    rw [List.pairwise_cons] at apart
    rw [List.flatMap_cons] at closed roomy enough ⊢
    rw [headers_append] at roomy enough
    rw [List.forall_mem_append] at roomy
    rw [List.length_append] at enough
    have filled : 0 < (headers (block.lines [])).length := Nat.succ_pos _
    have leaves := @leaves_flatMap [] block blocks apart.1 [] (.inl rfl)
    rw [List.append_nil] at leaves
    have between : (slotNames content ++ between.map Prod.fst).Nodup :=
      (List.Sublist.append_left grafts.names_prefix.sublist _).nodup distinct
    obtain ⟨budget, rfl⟩ := Nat.exists_eq_add_of_le' (show 1 ≤ budget by omega)
    obtain ⟨key, item, grown, opened, added, fitsGrown, ends⟩ := read.1.exists_added
      (List.forall_mem_nil _) leaves closed.front graft content fits between roomy.1
      (show _ ≤ budget + 1 by omega) [] true
    obtain ⟨done, onward, fitsDone, endsDone⟩ := ih read.2 apart.2 closed.right fitsGrown distinct
      roomy.2 budget (by omega)
    refine ⟨done, ?_, fitsDone, ?_⟩
    · have shape : block.lines [] ++ blocks.flatMap (Block.lines []) =
          .header { path := block.keys, inArray := false, margin := block.head.margin } ::
            (bodyLines block.keys block.entries ++ blocks.flatMap (Block.lines [])) := rfl
      rw [shape, List.map_nil] at opened
      rw [shape, tables?]
      simp only [bind, Except.bind, opened]
      rw [added]
      exact onward
    · rw [endsDone, ends, List.map_append, List.append_assoc]

/-- Every key of a header takes up some text. -/
theorem length_path_le {ls : List Line} (written : ∀ line ∈ ls, line.IsWritten) {opening : Opening}
    (listed : opening ∈ headers ls) : opening.path.length ≤ (ls.flatMap Line.text).length := by
  have member : .header opening ∈ ls := by
    obtain ⟨line, member, same⟩ := List.mem_filterMap.1 listed
    split at same
    · cases same
      exact member
    · cases same
  have short : opening.path.length ≤ (Line.header opening).text.length := by
    cases written _ member with
    | header _ _ keyed _ =>
      have keys := length_le_pathText keyed
      simp only [Line.text, headerLine, List.length_append]
      rw [if_neg Bool.false_ne_true]
      simp only [List.length_append, List.length_cons]
      omega
  obtain ⟨front, back, rfl⟩ := List.append_of_mem member
  rw [List.flatMap_append, List.flatMap_cons, List.length_append, List.length_append]
  omega

/-- A whole document is read from its text as a whole one that says the same. -/
theorem ofText?_whole {body : Body} (isWhole : body.IsWhole) :
    ∃ moved, Body.ofText? ((bodyLines [] body).flatMap Line.text) = .ok moved ∧
      moved.IsWhole ∧ contents moved = contents body := by
  obtain ⟨plain, heads, whole, distinct, closed⟩ := isWhole
  rename_i content tables
  have written : ∀ line ∈ bodyLines [] (content ++ tableItems tables), line.IsWritten := by
    rw [bodyLines_append]
    exact List.forall_mem_append.2 ⟨isWritten_plain plain [],
      forall_tableItems fun entry listed =>
        isWritten_whole (whole entry listed) (List.forall_mem_nil _) (heads entry listed)⟩
  have cut := lines_written written closed
  have split := bodyLines_whole whole [] content
  generalize shape : bodyLines [] (content ++ tableItems tables) = ls at written cut split closed
  have names := distinct
  rw [slotNames_append] at names
  obtain ⟨distinctContent, distinctTables, -⟩ := List.nodup_append.1 names
  have read : ∀ block ∈ bodyBlocks (tableItems tables), block.IsRead := by
    intro block listed
    obtain ⟨entry, member, inside⟩ := exists_of_mem_bodyBlocks listed
    exact isRead_whole (whole entry member) (heads entry member) block inside
  have ahead := AtHeader.blocks (.inl rfl) [] (bodyBlocks (tableItems tables))
  rw [List.append_nil] at ahead
  have pieces := closed
  rw [split] at pieces
  obtain ⟨filled, reading, matched⟩ := fill?_plain plain [] ahead
    (4 * (ls.flatMap Line.text).length + 3) false (List.forall_mem_nil _)
    (fun _ => List.forall_mem_nil _) pieces.front distinctContent
  rw [List.nil_append] at matched
  have few : (headers ((bodyBlocks (tableItems tables)).flatMap (Block.lines []))).length ≤
      ((bodyBlocks (tableItems tables)).flatMap (Block.lines [])).length :=
    List.length_filterMap_le _ _
  obtain ⟨grown, added, fits, endsGrown⟩ := tables?_blocks read
    (pairwise_items whole distinctTables) pieces.right filled .nil
    (grafts_items whole distinctTables) (by rwa [matched.slotNames_eq, map_fst_bodyShapes])
    (fun opening listed => by
      have short := length_path_le written (by
        rw [split, headers_append]
        exact List.mem_append_right _ listed)
      show _ ≤ 4 * (ls.flatMap Line.text).length + 3 + 1
      omega)
    (show _ ≤ 2 * ((bodyBlocks (tableItems tables)).flatMap (Block.lines [])).length + 2 by omega)
  obtain ⟨distinctRead, same⟩ := matched.together whole fits distinct
  refine ⟨filled ++ grown, ?_, ?_, same⟩
  · rw [← split] at reading
    rw [List.append_nil] at added
    rw [Body.ofText?, cut, Nat.mul_succ]
    simp only [bind, Except.bind, reading]
    exact added
  · have again : endings (filled ++ grown) = ls.map Line.ending := by
      rw [endings_append, endsGrown, matched.endings_eq, split, List.map_append]
      rfl
    obtain ⟨items, rfl, headsItems, wholeItems⟩ := fits.exists_whole
    exact .intro matched.plain headsItems wholeItems distinctRead (closed.congr again)

end TypstMarkup.Toml
