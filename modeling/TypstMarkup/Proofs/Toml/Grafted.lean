import TypstMarkup.Proofs.Toml.Whole

/-!
Tables put together from the headers that lead to them. A header leads to its table through tables
that may have been opened before. While these are the last ones opened, the new table is grafted
into them, so tables that share the way to them come together.
-/
namespace TypstMarkup.Toml

/-! ### Shapes -/

/-- A table as far as other tables join it: one with a header of its own says something, and one
that is only the way to others holds these. -/
inductive Shape where
  | own (entries : List (String × Content))
  | way (tables : List (String × Shape))

mutual

/-- What a table says, whichever its shape. -/
def Shape.content : Shape → Content
  | .own entries => .table entries
  | .way tables => .table (shapeContents tables)

def shapeContents : List (String × Shape) → List (String × Content)
  | [] => []
  | (name, shape) :: rest => (name, shape.content) :: shapeContents rest

end

/-- The tables that a header opens on the way to its table. -/
def branch : List String → List (String × Content) → List (String × Shape)
  | [], _ => []
  | [name], entries => [(name, .own entries)]
  | name :: rest, entries => [(name, .way (branch rest entries))]

/-- Adding a table at a path to others. The way to it is new, or it starts with the last of them. -/
inductive Graft :
    List (String × Shape) → List String → List (String × Content) → List (String × Shape) → Prop
  | fresh {tables : List (String × Shape)} {name : String} {rest : List String}
    {entries : List (String × Content)} (absent : name ∉ tables.map Prod.fst) :
    Graft tables (name :: rest) entries (tables ++ branch (name :: rest) entries)
  | inside {front inner later : List (String × Shape)} {name : String} {path : List String}
    {entries : List (String × Content)} (absent : name ∉ front.map Prod.fst)
    (distinct : (later.map Prod.fst).Nodup) (graft : Graft inner path entries later) :
    Graft (front ++ [(name, .way inner)]) (name :: path) entries (front ++ [(name, .way later)])

/-- Whole tables of given shapes, whatever their layout. -/
inductive Fits : Body → List (String × Shape) → Prop
  | nil : Fits [] []
  | own {slot : Slot} {head : Head} {entries body : Body} {tables : List (String × Shape)}
    (heads : slot.Heads) (onWay : head.onWay = some false)
    (whole : (Item.table head entries).IsWhole) (rest : Fits body tables) :
    Fits ((some slot, .table head entries) :: body)
      ((slot.key.name, .own (contents entries)) :: tables)
  | way {slot : Slot} {head : Head} {entries body : Body} {inner tables : List (String × Shape)}
    (heads : slot.Heads) (onWay : head.onWay = some true) (alone : head.inArray = false)
    (indent : IsGap head.margin.indent) (filled : inner ≠ [])
    (distinct : (inner.map Prod.fst).Nodup) (within : Fits entries inner)
    (rest : Fits body tables) :
    Fits ((some slot, .table head entries) :: body) ((slot.key.name, .way inner) :: tables)

namespace Fits

variable {body more : Body} {tables others : List (String × Shape)}

theorem slotNames_eq (fits : Fits body tables) : slotNames body = tables.map Prod.fst := by
  induction fits with
  | nil => rfl
  | own _ _ _ _ ih => exact congrArg (_ :: ·) ih
  | way _ _ _ _ _ _ _ _ _ ih => exact congrArg (_ :: ·) ih

theorem contents_eq (fits : Fits body tables) : contents body = shapeContents tables := by
  induction fits with
  | nil => simp [contents, shapeContents]
  | own _ _ _ _ ih => simp [contents, shapeContents, Item.content?, Shape.content, ih]
  | way _ _ _ _ _ _ _ _ inner ih =>
    simp [contents, shapeContents, Item.content?, Shape.content, inner, ih]

theorem exists_whole (fits : Fits body tables) : ∃ items : List (Slot × Item),
    body = tableItems items ∧ (∀ entry ∈ items, entry.1.Heads) ∧
      ∀ entry ∈ items, entry.2.IsWhole := by
  induction fits with
  | nil => exact ⟨[], rfl, List.forall_mem_nil _, List.forall_mem_nil _⟩
  | @own slot head entries _ _ heads _ whole _ ih =>
    obtain ⟨items, rfl, headsRest, wholeRest⟩ := ih
    exact ⟨(slot, .table head entries) :: items, rfl, List.forall_mem_cons.2 ⟨heads, headsRest⟩,
      List.forall_mem_cons.2 ⟨whole, wholeRest⟩⟩
  | @way slot head entries _ inner _ heads onWay alone indent filled distinct within _ ihInner ih =>
    obtain ⟨items, rfl, headsRest, wholeRest⟩ := ih
    obtain ⟨tables, rfl, headsInner, wholeInner⟩ := ihInner
    rw [← within.slotNames_eq] at distinct
    have some : tables ≠ [] := by
      rintro rfl
      have names : [] = inner.map Prod.fst := within.slotNames_eq
      exact filled (List.map_eq_nil_iff.1 names.symm)
    exact ⟨(slot, .table head (tableItems tables)) :: items, rfl,
      List.forall_mem_cons.2 ⟨heads, headsRest⟩, List.forall_mem_cons.2
        ⟨.implied onWay alone indent some headsInner wholeInner distinct, wholeRest⟩⟩

theorem append (fits : Fits body tables) (fitsMore : Fits more others) :
    Fits (body ++ more) (tables ++ others) := by
  induction fits with
  | nil => exact fitsMore
  | own heads onWay whole _ ih => exact .own heads onWay whole ih
  | way heads onWay alone indent filled distinct within _ _ ih =>
    exact .way heads onWay alone indent filled distinct within ih

theorem exists_append (fits : Fits body (tables ++ others)) :
    ∃ front back, body = front ++ back ∧ Fits front tables ∧ Fits back others := by
  induction tables generalizing body with
  | nil => exact ⟨[], body, rfl, .nil, fits⟩
  | cons table tables ih =>
    cases fits with
    | own heads onWay whole rest =>
      obtain ⟨front, back, rfl, fitsFront, fitsBack⟩ := ih rest
      exact ⟨_ :: front, back, rfl, .own heads onWay whole fitsFront, fitsBack⟩
    | way heads onWay alone indent filled distinct within rest =>
      obtain ⟨front, back, rfl, fitsFront, fitsBack⟩ := ih rest
      exact ⟨_ :: front, back, rfl,
        .way heads onWay alone indent filled distinct within fitsFront, fitsBack⟩

/-- The indent of a table does not change its shape. -/
theorem withIndent {front back : Body} {slot : Slot} {head : Head} {entries : Body}
    (fits : Fits (front ++ (some slot, .table head entries) :: back) tables) {indent : List Char}
    (gap : IsGap indent) : Fits (front ++ (some slot,
      .table { head with margin := { head.margin with indent } } entries) :: back) tables := by
  induction front generalizing tables with
  | nil =>
    cases fits with
    | own heads onWay whole rest => exact .own heads onWay (whole.withIndent gap) rest
    | way heads onWay alone _ filled distinct within rest =>
      exact .way heads onWay alone gap filled distinct within rest
  | cons entry front ih =>
    cases fits with
    | own heads onWay whole rest => exact .own heads onWay whole (ih rest)
    | way heads onWay alone indent filled distinct within rest =>
      exact .way heads onWay alone indent filled distinct within (ih rest)

theorem whole_of_mem {slot : Slot} {item : Item} (fits : Fits body tables)
    (listed : (some slot, item) ∈ body) : item.IsWhole := by
  obtain ⟨items, rfl, -, whole⟩ := fits.exists_whole
  obtain ⟨entry, member, same⟩ := List.mem_map.1 listed
  cases same
  exact whole entry member

end Fits

/-! ### Adding -/

/-- The last item under a name is replaced where it stands. -/
theorem setLast_eq {slot : Slot} {item : Item} {front back : Body}
    (last : slot.key.name ∉ slotNames back) (other : Slot) (new : Item) :
    Body.setLast (front ++ (some slot, item) :: back) slot.key.name other new =
      front ++ (some other, new) :: back := by
  have behind : ∀ entry ∈ back.reverse,
      (!(entry.1.any fun s => s.key.name == slot.key.name)) = true := by
    intro entry listed
    rw [Bool.not_eq_true', ← Bool.not_eq_true, Option.any_eq_true]
    rintro ⟨s, found, same⟩
    refine last (List.mem_filterMap.2 ⟨entry, List.mem_reverse.1 listed, ?_⟩)
    rw [found, Option.map_some, beq_iff_eq.1 same]
  have stop : ((some slot, item) :: front.reverse).takeWhile
      (fun entry => !(entry.1.any fun s => s.key.name == slot.key.name)) = [] := by
    simp
  have rest : ((some slot, item) :: front.reverse).dropWhile
      (fun entry => !(entry.1.any fun s => s.key.name == slot.key.name)) =
        (some slot, item) :: front.reverse := by
    simp
  rw [Body.setLast, List.reverse_append, List.reverse_cons, List.append_assoc,
    List.singleton_append, List.span_eq_takeWhile_dropWhile,
    List.takeWhile_append_of_pos behind, List.dropWhile_append_of_pos behind, stop, rest]
  simp

theorem mem_of_mem_named {body : Body} {name : String} {slot : Slot} {item : Item}
    (listed : (slot, item) ∈ Body.named body name) :
    (some slot, item) ∈ body ∧ slot.key.name = name := by
  obtain ⟨⟨found, other⟩, member, same⟩ := List.mem_filterMap.1 listed
  cases found with
  | none => cases same
  | some found =>
    dsimp only at same
    split at same
    · rename_i named
      cases same
      exact ⟨member, beq_iff_eq.1 named⟩
    · cases same

theorem lastTable?_concat (body : Body) (slot : Slot) (head : Head) (entries : Body) :
    Body.lastTable? (body ++ [(some slot, .table head entries)]) = some slot.key.name := by
  simp [Body.lastTable?, List.filter_append, Item.isTable]

theorem endings_withIndent (front back : Body) (slot : Slot) (head : Head) (entries : Body)
    (indent : List Char) : endings (front ++ (some slot,
        .table { head with margin := { head.margin with indent } } entries) :: back) =
      endings (front ++ (some slot, .table head entries) :: back) := by
  have header : (headerLines [] { head with margin := { head.margin with indent } }).map
      Line.ending = (headerLines [] head).map Line.ending := by
    rw [headerLines, headerLines]
    split <;> rfl
  rw [List.append_cons, endings_append, endings_append, endings_table, header, ← endings_table,
    ← endings_append, ← endings_append, ← List.append_cons]

/-- The blanks of another indent may be put into that of a table. -/
theorem isGap_indented {indent : List Char} (gap : IsGap indent) (outer : List Char) :
    IsGap ((indent.span (· != ' ')).1 ++ (outer.dropWhile (· != ' ')).takeWhile (· == ' ') ++
      (indent.span (· != ' ')).2) := by
  rw [List.span_eq_takeWhile_dropWhile]
  refine List.forall_mem_append.2
    ⟨List.forall_mem_append.2 ⟨fun c listed => ?_, fun c listed => ?_⟩, fun c listed => ?_⟩
  · exact gap c ((List.takeWhile_sublist _).subset listed)
  · have space : (c == ' ') = true := List.mem_takeWhile_imp (p := (· == ' ')) listed
    rw [beq_iff_eq.1 space]
    rfl
  · exact gap c ((List.dropWhile_sublist _).subset listed)

/-- The indent of a table may change while others are added to it. -/
theorem Fits.indented {body : Body} {tables : List (String × Shape)} (fits : Fits body tables)
    (distinct : (slotNames body).Nodup) {slot : Slot} {item : Item}
    (listed : (some slot, item) ∈ body) (outer : List Char) :
    Fits (Body.setLast body slot.key.name slot (Toml.indented outer item)) tables ∧
      endings (Body.setLast body slot.key.name slot (Toml.indented outer item)) =
        endings body := by
  have whole := fits.whole_of_mem listed
  obtain ⟨head, entries, rfl⟩ := whole.exists_table
  obtain ⟨front, back, rfl⟩ := List.append_of_mem listed
  rw [slotNames_append, List.nodup_append] at distinct
  have last : slot.key.name ∉ slotNames back := (List.nodup_cons.1 distinct.2.1).1
  rw [setLast_eq last]
  exact ⟨fits.withIndent (isGap_indented whole.isGap outer), endings_withIndent _ _ _ _ _ _⟩

theorem exists_table_of_fits {slot : Slot} {item : Item} {name : String}
    {tables : List (String × Shape)} (fits : Fits [(some slot, item)] [(name, .way tables)]) :
    slot.key.name = name ∧ slot.Heads ∧ ∃ head entries, item = .table head entries ∧
      head.onWay = some true ∧ head.inArray = false ∧ IsGap head.margin.indent ∧
        Fits entries tables := by
  cases fits with
  | way heads onWay alone indent _ _ within _ =>
    exact ⟨rfl, heads, _, _, rfl, onWay, alone, indent, within⟩

theorem Fits.exists_single {body : Body} {name : String} {shape : Shape}
    (fits : Fits body [(name, shape)]) : ∃ slot item, body = [(some slot, item)] := by
  cases fits with
  | own _ _ _ rest =>
    cases rest
    exact ⟨_, _, rfl⟩
  | way _ _ _ _ _ _ _ rest =>
    cases rest
    exact ⟨_, _, rfl⟩

/-- One more table among those of a table on the way to them. -/
theorem mergeInto_single {body grown : Body} {tables : List (String × Shape)} {slot : Slot}
    {item : Item} {room : Nat} (added : add? room true slot item body = .ok grown)
    (fits : Fits grown tables) (distinct : (tables.map Prod.fst).Nodup) (indent : List Char) :
    ∃ merged, mergeInto (room + 1) indent [(some slot, item)] body = .ok merged ∧
      Fits merged tables ∧ endings merged = endings grown := by
  rw [← fits.slotNames_eq] at distinct
  have finish (merged : Body) : mergeInto room indent [] merged = .ok merged := by
    cases room <;> rw [mergeInto]
  rw [mergeInto]
  simp only [bind, Except.bind, added, not_isScattered distinct, Bool.false_eq_true, if_false,
    Bool.not_false, Bool.and_true, finish]
  split
  · rename_i found other last
    obtain ⟨listed, same⟩ := mem_of_mem_named (List.mem_of_mem_getLast? last)
    split
    · rw [← same]
      exact ⟨_, rfl, fits.indented distinct listed indent⟩
    · exact ⟨_, rfl, fits, rfl⟩
  · exact ⟨_, rfl, fits, rfl⟩

theorem Graft.ne_nil {tables later : List (String × Shape)} {path : List String}
    {entries : List (String × Content)} (graft : Graft tables path entries later) : path ≠ [] := by
  cases graft <;> exact List.cons_ne_nil _ _

theorem branch_cons {path : List String} (filled : path ≠ []) (name : String)
    (entries : List (String × Content)) :
    branch (name :: path) entries = [(name, .way (branch path entries))] := by
  obtain ⟨next, rest, rfl⟩ := List.exists_cons_of_ne_nil filled
  rfl

theorem exists_branch {path : List String} (filled : path ≠ [])
    (entries : List (String × Content)) : ∃ name shape, branch path entries = [(name, shape)] := by
  match path with
  | [name] => exact ⟨name, _, rfl⟩
  | name :: next :: rest => exact ⟨name, _, rfl⟩

theorem Graft.grown_ne_nil {tables later : List (String × Shape)} {path : List String}
    {entries : List (String × Content)} (graft : Graft tables path entries later) :
    later ≠ [] := by
  cases graft with
  | @fresh _ name rest =>
    obtain ⟨first, shape, stem⟩ := exists_branch (List.cons_ne_nil name rest) entries
    rw [stem]
    simp
  | inside => simp

/-- A table on the way to others joins the one of its name that was opened last. -/
theorem add?_way {front : Body} {slot oldSlot : Slot} {head oldHead : Head}
    {entries oldEntries merged : Body}
    (distinct : (slotNames (front ++ [(some oldSlot, .table oldHead oldEntries)])).Nodup)
    (named : slot.key.name = oldSlot.key.name) (heads : slot.Heads) (oldHeads : oldSlot.Heads)
    (way : head.onWay = some true) (oldWay : oldHead.onWay = some true)
    (alone : head.inArray = false) {room : Nat}
    (joined : mergeInto room oldHead.margin.indent entries oldEntries = .ok merged)
    (checks : Bool) :
    add? (room + 1) checks slot (.table head entries)
        (front ++ [(some oldSlot, .table oldHead oldEntries)]) =
      .ok (front ++ [(some oldSlot, .table oldHead merged)]) := by
  have found : Body.named (front ++ [(some oldSlot, .table oldHead oldEntries)]) slot.key.name =
      [(oldSlot, .table oldHead oldEntries)] := by
    rw [named]
    exact named_eq_singleton distinct oldSlot (by simp)
  have last : Body.lastTable? (front ++ [(some oldSlot, .table oldHead oldEntries)]) =
      some slot.key.name := by
    rw [named]
    exact lastTable?_concat _ _ _ _
  have replaced : Body.setLast (front ++ [(some oldSlot, .table oldHead oldEntries)])
      slot.key.name oldSlot (.table oldHead merged) =
        front ++ [(some oldSlot, .table oldHead merged)] := by
    rw [named]
    exact setLast_eq (by simp [slotNames]) _ _
  rw [add?.eq_def]
  simp only [not_isScattered distinct, Bool.false_eq_true, if_false, found,
    List.getLast?_singleton, alone, Head.isOnWay, oldWay, way, Option.getD_some, Bool.not_true,
    heads.single, oldHeads.single, Bool.or_self, last, bne_self_eq_false, bind, Except.bind, joined]
  exact congrArg Except.ok replaced

/-- An item is added to a body of tables where it is grafted into their shapes. -/
theorem add?_graft {tables later : List (String × Shape)} {path : List String}
    {entries : List (String × Content)} (graft : Graft tables path entries later)
    (content : Body) {body : Body} (fits : Fits body tables) {slot : Slot} {item : Item}
    (new : Fits [(some slot, item)] (branch path entries))
    (distinct : (slotNames content ++ later.map Prod.fst).Nodup) (room : Nat)
    (enough : 2 * path.length ≤ room + 1) (checks : Bool) :
    ∃ grown, add? room checks slot item (content ++ body) = .ok (content ++ grown) ∧
      Fits grown later ∧ endings grown = endings body ++ endings [(some slot, item)] := by
  induction graft generalizing content body slot item room checks with
  | @fresh tables name rest entries absent =>
    have grown := fits.append new
    have names := grown.slotNames_eq
    have positive : 1 ≤ room := by
      rw [List.length_cons] at enough
      omega
    obtain ⟨room, rfl⟩ := Nat.exists_eq_add_of_le' positive
    rw [← names, slotNames_append, ← List.append_assoc, ← slotNames_append] at distinct
    obtain ⟨old, -, apart⟩ := List.nodup_append.1 distinct
    refine ⟨body ++ [(some slot, item)], ?_, grown, endings_append _ _⟩
    rw [add?_new old slot (fun member => apart _ member _ List.mem_cons_self rfl),
      List.append_assoc]
  | @inside front inner later name path entries absent innerDistinct graft ih =>
    have filled := graft.ne_nil
    rw [branch_cons filled] at new
    obtain ⟨named, heads, head, es, rfl, way, alone, -, within⟩ := exists_table_of_fits new
    obtain ⟨bodyFront, back, rfl, fitsFront, fitsBack⟩ := fits.exists_append
    obtain ⟨oldSlot, oldItem, rfl⟩ := fitsBack.exists_single
    obtain ⟨oldNamed, oldHeads, oldHead, oldEntries, rfl, oldWay, oldAlone, oldIndent, oldWithin⟩ :=
      exists_table_of_fits fitsBack
    subst oldNamed
    obtain ⟨next, shape, stem⟩ := exists_branch filled entries
    obtain ⟨innerSlot, innerItem, rfl⟩ := (stem ▸ within).exists_single
    have long : 3 ≤ room := by
      have positive := List.length_pos_iff.2 filled
      rw [List.length_cons] at enough
      omega
    obtain ⟨room, rfl⟩ := Nat.exists_eq_add_of_le' (Nat.le_of_succ_le long)
    obtain ⟨grown, added, fitsGrown, ends⟩ := ih [] oldWithin within innerDistinct room
      (by rw [List.length_cons] at enough; omega) true
    obtain ⟨merged, joined, fitsMerged, sameEnds⟩ :=
      mergeInto_single added fitsGrown innerDistinct oldHead.margin.indent
    rw [List.nil_append] at joined sameEnds
    have names : (slotNames (content ++ bodyFront ++
        [(some oldSlot, .table oldHead oldEntries)])).Nodup := by
      rw [List.append_assoc, slotNames_append, fits.slotNames_eq, List.map_append]
      rwa [List.map_append] at distinct
    have fitsLast := Fits.way oldHeads oldWay oldAlone oldIndent graft.grown_ne_nil innerDistinct
      fitsMerged .nil
    refine ⟨bodyFront ++ [(some oldSlot, .table oldHead merged)], ?_, fitsFront.append fitsLast, ?_⟩
    · rw [← List.append_assoc, ← List.append_assoc]
      exact add?_way names named heads oldHeads way oldWay alone joined checks
    · rw [endings_append, endings_append, endings_way oldWay, endings_way oldWay, endings_way way,
        sameEnds, ends, List.append_assoc]

/-! ### Adding table after table -/

/-- A table that has a header of its own, with the keys that lead to it. -/
structure Block where
  keys : List Key
  head : Head
  entries : Body

namespace Block

def names (block : Block) : List String :=
  block.keys.map Key.name

/-- A table below one more key. -/
def under (key : Key) (block : Block) : Block :=
  { block with keys := key :: block.keys }

end Block

mutual

/-- The tables with headers of their own that an item under a key holds, or is. -/
def itemBlocks (slot : Slot) : Item → List Block
  | .table head entries =>
    if head.onWay = some true then (bodyBlocks entries).map (Block.under slot.key)
    else [⟨[slot.key], head, entries⟩]
  | _ => []

/-- The tables with headers of their own that are reached without another such table. -/
def bodyBlocks : List (Option Slot × Item) → List Block
  | [] => []
  | (none, _) :: rest => bodyBlocks rest
  | (some slot, item) :: rest => itemBlocks slot item ++ bodyBlocks rest

end

mutual

def Item.shape : Item → Shape
  | .table head entries =>
    if head.onWay = some true then .way (bodyShapes entries) else .own (contents entries)
  | _ => .own []

def bodyShapes : List (Option Slot × Item) → List (String × Shape)
  | [] => []
  | (none, _) :: rest => bodyShapes rest
  | (some slot, item) :: rest => (slot.key.name, item.shape) :: bodyShapes rest

end

/-- Adding tables one after the other. -/
inductive Grafts : List (String × Shape) → List Block → List (String × Shape) → Prop
  | nil {tables : List (String × Shape)} : Grafts tables [] tables
  | cons {tables later final : List (String × Shape)} {block : Block} {blocks : List Block}
    (graft : Graft tables block.names (contents block.entries) later)
    (rest : Grafts later blocks final) : Grafts tables (block :: blocks) final

theorem Graft.names_prefix {tables later : List (String × Shape)} {path : List String}
    {entries : List (String × Content)} (graft : Graft tables path entries later) :
    tables.map Prod.fst <+: later.map Prod.fst := by
  cases graft with
  | fresh => exact List.map_append ▸ List.prefix_append _ _
  | inside => simp

theorem Graft.eq_branch {later : List (String × Shape)} {path : List String}
    {entries : List (String × Content)} (graft : Graft [] path entries later) :
    later = branch path entries := by
  generalize empty : ([] : List (String × Shape)) = tables at graft
  cases graft with
  | fresh => rw [← empty, List.nil_append]
  | inside => exact absurd empty.symm (by simp)

theorem Grafts.names_prefix {tables final : List (String × Shape)} {blocks : List Block}
    (grafts : Grafts tables blocks final) : tables.map Prod.fst <+: final.map Prod.fst := by
  induction grafts with
  | nil => exact List.prefix_refl _
  | cons graft _ ih => exact graft.names_prefix.trans ih

theorem Grafts.append {tables later final : List (String × Shape)} {blocks more : List Block}
    (grafts : Grafts tables blocks later) (rest : Grafts later more final) :
    Grafts tables (blocks ++ more) final := by
  induction grafts with
  | nil => exact rest
  | cons graft _ ih => exact .cons graft (ih rest)

/-- What is grafted into a table on the way is grafted into the tables around it. -/
theorem Grafts.inside {front inner final : List (String × Shape)} {blocks : List Block} {key : Key}
    (grafts : Grafts inner blocks final) (absent : key.name ∉ front.map Prod.fst)
    (distinct : (final.map Prod.fst).Nodup) :
    Grafts (front ++ [(key.name, .way inner)]) (blocks.map (Block.under key))
      (front ++ [(key.name, .way final)]) := by
  induction grafts with
  | nil => exact .nil
  | cons graft rest ih =>
    have between := rest.names_prefix.sublist.nodup distinct
    exact .cons (.inside absent between graft) (ih distinct)

/-- The first table below a name opens the way to it. -/
theorem Grafts.opening {front final : List (String × Shape)} {blocks : List Block} {key : Key}
    (grafts : Grafts [] blocks final) (filled : blocks ≠ [])
    (absent : key.name ∉ front.map Prod.fst) (distinct : (final.map Prod.fst).Nodup) :
    Grafts front (blocks.map (Block.under key)) (front ++ [(key.name, .way final)]) := by
  cases grafts with
  | nil => exact absurd rfl filled
  | @cons _ later _ block blocks graft rest =>
    have between := rest.names_prefix.sublist.nodup distinct
    refine .cons ?_ (rest.inside absent distinct)
    have whole : front ++ [(key.name, Shape.way later)] =
        front ++ branch (key.name :: block.names) (contents block.entries) := by
      rw [branch_cons graft.ne_nil, ← graft.eq_branch]
    rw [whole]
    exact .fresh absent

theorem map_fst_bodyShapes (body : Body) : (bodyShapes body).map Prod.fst = slotNames body := by
  induction body with
  | nil => simp [bodyShapes, slotNames]
  | cons entry body ih =>
    obtain ⟨slot, item⟩ := entry
    cases slot with
    | none =>
      rw [bodyShapes]
      exact ih
    | some slot =>
      rw [bodyShapes, List.map_cons, ih]
      rfl

theorem itemBlocks_ne_nil {item : Item} (whole : item.IsWhole) (slot : Slot) :
    itemBlocks slot item ≠ [] := by
  induction whole generalizing slot with
  | headed own =>
    rw [itemBlocks, own]
    simp
  | implied way _ _ filled _ _ _ ih =>
    obtain ⟨entry, tables, rfl⟩ := List.exists_cons_of_ne_nil filled
    rw [itemBlocks, way, tableItems, List.map_cons, bodyBlocks]
    simp [ih entry List.mem_cons_self]

theorem grafts_tables {tables : List (Slot × Item)} (front : List (String × Shape))
    (each : ∀ entry ∈ tables, ∀ front : List (String × Shape),
      entry.1.key.name ∉ front.map Prod.fst →
        Grafts front (itemBlocks entry.1 entry.2) (front ++ [(entry.1.key.name, entry.2.shape)]))
    (distinct : (front.map Prod.fst ++ slotNames (tableItems tables)).Nodup) :
    Grafts front (bodyBlocks (tableItems tables)) (front ++ bodyShapes (tableItems tables)) := by
  induction tables generalizing front with
  | nil =>
    rw [tableItems, List.map_nil, bodyBlocks, bodyShapes, List.append_nil]
    exact .nil
  | cons entry tables ih =>
    rw [List.forall_mem_cons] at each
    have names : slotNames (tableItems (entry :: tables)) =
        entry.1.key.name :: slotNames (tableItems tables) := rfl
    rw [names] at distinct
    have absent : entry.1.key.name ∉ front.map Prod.fst := fun member =>
      (List.nodup_append.1 distinct).2.2 _ member _ List.mem_cons_self rfl
    have later := ih (front ++ [(entry.1.key.name, entry.2.shape)]) each.2 (by
      rwa [List.map_append, List.map_singleton, List.append_assoc])
    rw [List.append_assoc] at later
    exact (each.1 front absent).append later

/-- The tables of a whole item come together as they stand in it. -/
theorem grafts_whole {item : Item} (whole : item.IsWhole) (slot : Slot)
    {front : List (String × Shape)} (absent : slot.key.name ∉ front.map Prod.fst) :
    Grafts front (itemBlocks slot item) (front ++ [(slot.key.name, item.shape)]) := by
  induction whole generalizing slot front with
  | @headed head content tables own _ _ _ _ _ _ _ _ =>
    rw [itemBlocks, Item.shape, own, if_neg (by simp), if_neg (by simp)]
    exact .cons (.fresh absent) .nil
  | @implied head tables way _ _ filled _ whole distinct ih =>
    have inner : Grafts [] (bodyBlocks (tableItems tables)) (bodyShapes (tableItems tables)) :=
      grafts_tables [] (fun entry listed front absent => ih entry listed entry.1 absent) distinct
    obtain ⟨first, tables, rfl⟩ := List.exists_cons_of_ne_nil filled
    have some : bodyBlocks (tableItems (first :: tables)) ≠ [] := by
      rw [tableItems, List.map_cons, bodyBlocks]
      simp [itemBlocks_ne_nil (whole first List.mem_cons_self)]
    rw [itemBlocks, Item.shape, way, if_pos rfl, if_pos rfl]
    exact inner.opening some absent (by rwa [map_fst_bodyShapes])

theorem names_of_mem_itemBlocks {slot : Slot} {item : Item} {block : Block}
    (listed : block ∈ itemBlocks slot item) : ∃ rest, block.names = slot.key.name :: rest := by
  cases item with
  | table head entries =>
    rw [itemBlocks] at listed
    split at listed
    · obtain ⟨inner, -, rfl⟩ := List.mem_map.1 listed
      exact ⟨inner.names, rfl⟩
    · rw [List.mem_singleton.1 listed]
      exact ⟨[], rfl⟩
  | _ => simp [itemBlocks] at listed

theorem exists_of_mem_bodyBlocks {tables : List (Slot × Item)} {block : Block}
    (listed : block ∈ bodyBlocks (tableItems tables)) :
    ∃ entry ∈ tables, block ∈ itemBlocks entry.1 entry.2 := by
  induction tables with
  | nil => simp [tableItems, bodyBlocks] at listed
  | cons entry tables ih =>
    rw [tableItems, List.map_cons, bodyBlocks, List.mem_append] at listed
    rcases listed with here | later
    · exact ⟨entry, List.mem_cons_self, here⟩
    · obtain ⟨other, member, inside⟩ := ih later
      exact ⟨other, List.mem_cons_of_mem _ member, inside⟩

/-- Tables under different names do not stand within each other. -/
theorem pairwise_bodyBlocks {tables : List (Slot × Item)}
    (each : ∀ entry ∈ tables, (itemBlocks entry.1 entry.2).Pairwise fun first later =>
      ¬first.names <+: later.names)
    (distinct : (slotNames (tableItems tables)).Nodup) :
    (bodyBlocks (tableItems tables)).Pairwise fun first later =>
      ¬first.names <+: later.names := by
  induction tables with
  | nil =>
    rw [tableItems, List.map_nil, bodyBlocks]
    exact List.Pairwise.nil
  | cons entry tables ih =>
    rw [List.forall_mem_cons] at each
    have names : slotNames (tableItems (entry :: tables)) =
        entry.1.key.name :: slotNames (tableItems tables) := rfl
    rw [names, List.nodup_cons] at distinct
    rw [tableItems, List.map_cons, bodyBlocks, List.pairwise_append]
    refine ⟨each.1, ih each.2 distinct.2, fun first here later there => ?_⟩
    obtain ⟨rest, same⟩ := names_of_mem_itemBlocks here
    obtain ⟨other, member, inside⟩ := exists_of_mem_bodyBlocks there
    obtain ⟨more, differs⟩ := names_of_mem_itemBlocks inside
    rw [same, differs]
    intro within
    rw [(List.cons_prefix_cons.1 within).1] at distinct
    exact distinct.1 (List.mem_filterMap.2
      ⟨(some other.1, other.2), List.mem_map.2 ⟨other, member, rfl⟩, rfl⟩)

/-- No table that is reached without another one stands within another one. -/
theorem pairwise_itemBlocks {item : Item} (whole : item.IsWhole) (slot : Slot) :
    (itemBlocks slot item).Pairwise fun first later => ¬first.names <+: later.names := by
  induction whole generalizing slot with
  | headed own =>
    rw [itemBlocks, own, if_neg (by simp)]
    exact List.pairwise_singleton _ _
  | implied way _ _ _ _ _ distinct ih =>
    rw [itemBlocks, way, if_pos rfl, List.pairwise_map]
    refine (pairwise_bodyBlocks (fun entry listed => ih entry listed entry.1) distinct).imp ?_
    intro first later apart within
    exact apart (List.cons_prefix_cons.1 within).2

/-- The shapes of whole tables say what the tables say. -/
theorem shapeContents_bodyShapes {tables : List (Slot × Item)}
    (each : ∀ entry ∈ tables, entry.2.content? = some entry.2.shape.content) :
    shapeContents (bodyShapes (tableItems tables)) = contents (tableItems tables) := by
  induction tables with
  | nil => simp [tableItems, bodyShapes, shapeContents, contents]
  | cons entry tables ih =>
    rw [List.forall_mem_cons] at each
    rw [tableItems, List.map_cons, bodyShapes, shapeContents, contents, each.1]
    exact congrArg (_ :: ·) (ih each.2)

theorem content?_eq {item : Item} (whole : item.IsWhole) :
    item.content? = some item.shape.content := by
  induction whole with
  | headed own =>
    rw [Item.content?, Item.shape, own, if_neg (by simp), Shape.content]
  | implied way _ _ _ _ _ _ ih =>
    rw [Item.content?, Item.shape, way, if_pos rfl, Shape.content, shapeContents_bodyShapes ih]

section

variable {tables : List (Slot × Item)} (whole : ∀ entry ∈ tables, entry.2.IsWhole)

include whole

theorem Fits.contents_items {body : Body} (fits : Fits body (bodyShapes (tableItems tables))) :
    contents body = contents (tableItems tables) := by
  rw [fits.contents_eq,
    shapeContents_bodyShapes fun entry listed => content?_eq (whole entry listed)]

variable (distinct : (slotNames (tableItems tables)).Nodup)

include distinct

theorem grafts_items :
    Grafts [] (bodyBlocks (tableItems tables)) (bodyShapes (tableItems tables)) :=
  grafts_tables [] (fun entry listed _ absent => grafts_whole (whole entry listed) entry.1 absent)
    distinct

theorem pairwise_items : (bodyBlocks (tableItems tables)).Pairwise fun first later =>
    ¬first.names <+: later.names :=
  pairwise_bodyBlocks (fun entry listed => pairwise_itemBlocks (whole entry listed) entry.1)
    distinct

end

end TypstMarkup.Toml
