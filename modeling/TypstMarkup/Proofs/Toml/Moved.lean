import TypstMarkup.Proofs.Toml.Rebuilt

/-!
Whole documents moved into a table. Values get the spacing of new ones, and tables show the paths
that lead to them, perhaps after a line feed. So what is moved has the text of a whole table again:
the line feed before a table is a blank line at the end of what comes before it.
-/
namespace TypstMarkup.Toml

/-! ### Paths -/

theorem bodyLines_tables (path : List Key) (tables : List (Slot × Item)) :
    bodyLines path (tableItems tables) =
      tables.flatMap fun entry => itemLines path entry.1 entry.2 := by
  induction tables with
  | nil => simp [tableItems, bodyLines]
  | cons entry tables ih =>
    rw [tableItems] at ih
    rw [tableItems, List.map_cons, bodyLines, ih, List.flatMap_cons]

theorem repathedEntries_eq_map {p : String → Bool} (none : ∀ name, p name = false) (body : Body) :
    repathedEntries p body = body.map fun entry => (entry.1, entry.2.repathed) := by
  induction body with
  | nil => rw [repathedEntries, List.map_nil]
  | cons entry body ih =>
    have chosen : (entry.1.any fun slot => p slot.key.name) = false := by
      cases entry.1 with
      | none => rfl
      | some slot => exact none slot.key.name
    rw [repathedEntries, chosen, ih, List.map_cons]
    rfl

/-- Tables that show the paths that lead to them. -/
def repathedTables (tables : List (Slot × Item)) : List (Slot × Item) :=
  tables.map fun entry => (entry.1, entry.2.repathed)

theorem repathedEntries_whole {content : Body} {tables : List (Slot × Item)}
    (plain : ∀ entry ∈ content, IsPlain entry)
    (distinct : (slotNames (content ++ tableItems tables)).Nodup) :
    repathedEntries (Body.isScattered (content ++ tableItems tables))
      (content ++ tableItems tables) = content ++ tableItems (repathedTables tables) := by
  have same : content.map (fun entry => (entry.1, entry.2.repathed)) = content := by
    refine (List.map_congr_left fun entry listed => ?_).trans (List.map_id content)
    cases plain entry listed <;> simp [Item.repathed]
  rw [repathedEntries_eq_map (not_isScattered distinct), List.map_append, same, tableItems,
    tableItems, repathedTables, List.map_map, List.map_map]
  rfl

theorem slotNames_tableItems (tables : List (Slot × Item)) :
    slotNames (tableItems tables) = tables.map fun entry => entry.1.key.name := by
  induction tables with
  | nil => rfl
  | cons entry tables ih => exact congrArg (_ :: ·) ih

theorem slotNames_repathedTables (content : Body) (tables : List (Slot × Item)) :
    slotNames (content ++ tableItems (repathedTables tables)) =
      slotNames (content ++ tableItems tables) := by
  rw [slotNames_append, slotNames_append, slotNames_tableItems, slotNames_tableItems,
    repathedTables, List.map_map]
  rfl

namespace Item.IsWhole

variable {item : Item}

/-- A whole item stays whole when its tables show the paths that lead to them. -/
theorem repathed (whole : item.IsWhole) : item.repathed.IsWhole := by
  induction whole with
  | headed own alone indent ends plain heads _ distinct ih =>
    rw [Item.repathed, repathedEntries_whole plain distinct]
    exact .headed own alone indent ends plain (List.forall_mem_map.2 heads)
      (List.forall_mem_map.2 ih) (by rwa [slotNames_repathedTables])
  | @implied head tables way alone indent filled heads _ distinct ih =>
    have entries := repathedEntries_whole (List.forall_mem_nil IsPlain) distinct
    rw [List.nil_append, List.nil_append] at entries
    rw [Item.repathed, entries]
    exact .implied way alone indent (by rwa [repathedTables, Ne, List.map_eq_nil_iff])
      (List.forall_mem_map.2 heads) (List.forall_mem_map.2 ih)
      (by simpa using slotNames_repathedTables [] tables ▸ distinct)

theorem followsPath_repathed (whole : item.IsWhole) : item.repathed.FollowsPath := by
  induction whole with
  | headed own alone indent ends plain heads _ distinct ih =>
    rw [Item.repathed, repathedEntries_whole plain distinct]
    refine .table rfl (List.forall_mem_append.2 ⟨fun entry listed => .plain ?_, ?_⟩)
    · cases plain entry listed <;> rfl
    · exact List.forall_mem_map.2 (List.forall_mem_map.2 ih)
  | implied way alone indent filled heads _ distinct ih =>
    have entries := repathedEntries_whole (List.forall_mem_nil IsPlain) distinct
    rw [List.nil_append, List.nil_append] at entries
    rw [Item.repathed, entries]
    exact .table rfl (List.forall_mem_map.2 (List.forall_mem_map.2 ih))

theorem itemLines_repathed (whole : item.IsWhole) (path : List Key) (slot : Slot) :
    itemLines path slot item.repathed = itemLines path slot item := by
  have inner {tables : List (Slot × Item)} {path : List Key} (each : ∀ entry ∈ tables,
      itemLines path entry.1 entry.2.repathed = itemLines path entry.1 entry.2) :
      bodyLines path (tableItems (repathedTables tables)) = bodyLines path (tableItems tables) := by
    rw [bodyLines_tables, bodyLines_tables, repathedTables, List.flatMap_map]
    exact List.flatMap_congr each
  induction whole generalizing path slot with
  | headed own alone indent ends plain heads _ distinct ih =>
    rw [Item.repathed, repathedEntries_whole plain distinct, itemLines, itemLines, bodyLines_append,
      bodyLines_append, inner fun entry listed => ih entry listed _ entry.1]
    rfl
  | implied way alone indent filled heads _ distinct ih =>
    have entries := repathedEntries_whole (List.forall_mem_nil IsPlain) distinct
    rw [List.nil_append, List.nil_append] at entries
    rw [Item.repathed, entries, itemLines, itemLines,
      inner fun entry listed => ih entry listed _ entry.1]
    rfl

end Item.IsWhole

/-! ### Distance -/

theorem tableHeader_apart {head : Head} (close : head.margin.indent = []) (dotted : Bool)
    (path : List Char) (entries : Body) :
    tableHeader { head with margin := { head.margin with indent := ['\n'] } } dotted path entries =
      '\n' :: tableHeader head dotted path entries := by
  have onWay : Head.isOnWay { head with margin := { head.margin with indent := ['\n'] } } entries =
      head.isOnWay entries := rfl
  rw [tableHeader, tableHeader, onWay]
  split
  · simp [headerLine, close]
  · simp [close]

/-- A table that is set apart has its text after at most a line feed. -/
theorem text_apart (head : Head) (entries : Body) (afterBlank : Bool) :
    ∃ gap, (gap = [] ∨ gap = ['\n']) ∧ ∀ path slot,
      ((Item.table head entries).apart afterBlank).text path slot =
        gap ++ (Item.table head entries).text path slot := by
  rw [Item.apart]
  split
  · exact ⟨[], .inl rfl, fun _ _ => rfl⟩
  · rename_i close
    rw [Bool.or_eq_true, not_or, Bool.not_eq_true, Bool.not_eq_true', Bool.not_eq_false,
      List.isEmpty_iff] at close
    refine ⟨['\n'], .inr rfl, fun path slot => ?_⟩
    rw [Item.text, Item.text, tableHeader_apart close.2]
    rfl

/-- A body with a blank line at its end. -/
structure Trailed (entries longer : Body) : Prop where
  slotNames_eq : slotNames longer = slotNames entries
  contents_eq : contents longer = contents entries
  bodyLines_eq : ∀ path, bodyLines path longer = bodyLines path entries ++ [.blank ['\n']]

namespace Trailed

variable {entries longer : Body}

theorem blank (content : Body) : Trailed content (content ++ [(none, .blank ['\n'])]) := by
  refine ⟨?_, ?_, fun path => ?_⟩
  · simp [slotNames]
  · simp [contents_append, contents]
  · simp [bodyLines_append, bodyLines, cutLines]

theorem behind (trailed : Trailed entries longer) (content : Body) :
    Trailed (content ++ entries) (content ++ longer) := by
  refine ⟨?_, ?_, fun path => ?_⟩
  · rw [slotNames_append, slotNames_append, trailed.slotNames_eq]
  · rw [contents_append, contents_append, trailed.contents_eq]
  · rw [bodyLines_append, bodyLines_append, trailed.bodyLines_eq, List.append_assoc]

theorem inside (trailed : Trailed entries longer) (slot : Slot) (head : Head) :
    Trailed (tableItems [(slot, .table head entries)])
      (tableItems [(slot, .table head longer)]) := by
  refine ⟨rfl, ?_, fun path => ?_⟩
  · simp [tableItems, contents, Item.content?, trailed.contents_eq]
  · simp [bodyLines_tables, itemLines, trailed.bodyLines_eq]

/-- A blank line at the end of the last table is one at the end of all. -/
theorem inLast (trailed : Trailed entries longer) (front : List (Slot × Item)) (slot : Slot)
    (head : Head) : Trailed (tableItems (front ++ [(slot, .table head entries)]))
      (tableItems (front ++ [(slot, .table head longer)])) := by
  have split (last : Slot × Item) : tableItems (front ++ [last]) =
      tableItems front ++ tableItems [last] := List.map_append
  rw [split, split]
  exact (trailed.inside slot head).behind _

end Trailed

theorem forall_replacedLast {front : List (Slot × Item)} {slot : Slot} {last other : Item}
    (heads : ∀ entry ∈ front ++ [(slot, last)], entry.1.Heads)
    (whole : ∀ entry ∈ front ++ [(slot, last)], entry.2.IsWhole) (new : other.IsWhole) :
    (∀ entry ∈ front ++ [(slot, other)], entry.1.Heads) ∧
      ∀ entry ∈ front ++ [(slot, other)], entry.2.IsWhole := by
  simp only [List.forall_mem_append, List.forall_mem_singleton] at heads whole ⊢
  exact ⟨heads, whole.1, new⟩

/-- A blank line at the end of a whole table leaves it whole. -/
theorem exists_trailed {item : Item} (whole : item.IsWhole) : ∃ head entries longer,
    item = .table head entries ∧ (Item.table head longer).IsWhole ∧ Trailed entries longer := by
  induction whole with
  | @headed head content tables own alone indent ends plain heads whole distinct ih =>
    rcases List.eq_nil_or_concat' tables with rfl | ⟨front, ⟨slot, last⟩, rfl⟩
    · have blank : IsPlain (none, .blank ['\n']) := .blank (List.forall_mem_singleton.2 (by decide))
      have none : tableItems [] = [] := rfl
      have trailed := Trailed.blank content
      rw [none, List.append_nil] at distinct ⊢
      have longer := Item.IsWhole.headed own alone indent ends
        (List.forall_mem_append.2 ⟨plain, List.forall_mem_singleton.2 blank⟩) heads whole
        (by rwa [none, List.append_nil, trailed.slotNames_eq])
      rw [none, List.append_nil] at longer
      exact ⟨head, content, _, rfl, longer, trailed⟩
    · obtain ⟨lastHead, entries, longer, rfl, longerWhole, trailed⟩ := ih (slot, last) (by simp)
      obtain ⟨headsAll, wholeAll⟩ := forall_replacedLast heads whole longerWhole
      have trailedAll := (trailed.inLast front slot lastHead).behind content
      exact ⟨head, _, _, rfl, .headed own alone indent ends plain headsAll wholeAll
        (by rwa [trailedAll.slotNames_eq]), trailedAll⟩
  | @implied head tables way alone indent filled heads whole distinct ih =>
    rcases List.eq_nil_or_concat' tables with rfl | ⟨front, ⟨slot, last⟩, rfl⟩
    · exact absurd rfl filled
    · obtain ⟨lastHead, entries, longer, rfl, longerWhole, trailed⟩ := ih (slot, last) (by simp)
      obtain ⟨headsAll, wholeAll⟩ := forall_replacedLast heads whole longerWhole
      have trailedAll := trailed.inLast front slot lastHead
      exact ⟨head, _, _, rfl, .implied way alone indent (by simp) headsAll wholeAll
        (by rwa [trailedAll.slotNames_eq]), trailedAll⟩

/-- Blanks before the first header of a whole table leave it whole. -/
theorem exists_indented {item : Item} (whole : item.IsWhole) {blanks : List Char}
    (gap : IsGap blanks) : ∃ other : Item, other.IsWhole ∧ other.content? = item.content? ∧
      ∀ path slot, (itemLines path slot other).flatMap Line.text =
          blanks ++ (itemLines path slot item).flatMap Line.text ∧
        (itemLines path slot other).map Line.ending =
          (itemLines path slot item).map Line.ending := by
  induction whole with
  | @headed head content tables own alone indent ends plain heads whole distinct ih =>
    have longer : IsGap (blanks ++ head.margin.indent) := List.forall_mem_append.2 ⟨gap, indent⟩
    have same := (Item.IsWhole.headed own alone indent ends plain heads whole distinct).withIndent
      longer
    refine ⟨_, same, rfl, fun path slot => ⟨?_, ?_⟩⟩
    · simp [itemLines, headerLines, own, Line.text, headerLine]
    · simp [itemLines, headerLines, own, Line.ending]
  | @implied head tables way alone indent filled heads whole distinct ih =>
    obtain ⟨⟨slot, first⟩, tables, rfl⟩ := List.exists_cons_of_ne_nil filled
    obtain ⟨other, otherWhole, same, lines⟩ := ih (slot, first) List.mem_cons_self
    rw [List.forall_mem_cons] at heads whole
    refine ⟨.table head (tableItems ((slot, other) :: tables)),
      .implied way alone indent (List.cons_ne_nil _ _) (List.forall_mem_cons.2 heads)
        (List.forall_mem_cons.2 ⟨otherWhole, whole.2⟩) distinct, ?_, fun path slot => ⟨?_, ?_⟩⟩
    · simp [Item.content?, tableItems, contents, same]
    · simp [itemLines, headerLines, way, bodyLines_tables, (lines _ _).1]
    · simp [itemLines, headerLines, way, bodyLines_tables, (lines _ _).2]

/-! ### Values -/

/-- A value as it moves: a truth value loses what stood around it. -/
def Item.loose : Item → Item
  | .value (.truth b) text _ => .value (.truth b) text {}
  | item => item

/-- The values of a body as they move. -/
def looseValues (body : Body) : Body :=
  body.filterMap fun entry =>
    entry.1.map fun slot => (some (.ofName slot.key.name), entry.2.loose)

theorem isName_writtenKey (name : String) : IsName (writtenKey name.toList) name := by
  rcases writtenKey_cases name.toList with ⟨same, filled, letters⟩ | same
  · have bare := IsName.bare filled letters
    rwa [String.ofList_toList, ← same] at bare
  · have read := @string?_basic name.toList [] (by simp)
    rw [List.append_nil, ← same] at read
    have quoted := IsName.quoted (.inl (by rw [same, basicString]; rfl)) read
    rwa [String.ofList_toList] at quoted

theorem isWritten_ofName (name : String) : (Key.ofName name).IsWritten := by
  have written := Key.IsWritten.intro (List.forall_mem_nil _) (isName_writtenKey name)
    (List.forall_mem_nil _)
  rwa [List.nil_append, List.append_nil] at written

theorem heads_ofName (name : String) : (Slot.ofName name).Heads :=
  ⟨rfl, isWritten_ofName name⟩

/-- A value is read from its line also under a key in its usual written form. -/
theorem isWritten_line_ofName (name : String) {sort : ValueSort} {text : List Char}
    {margin : Margin} (indent : IsSpace margin.indent) (isValue : IsValue sort text)
    (ends : margin.IsWritten) :
    ((Slot.ofName name).line (.value sort text margin)).IsWritten := by
  obtain ⟨c, more, shape, starts⟩ := exists_cons_writtenKey name.toList
  have keyed : (⟨name, writtenKey name.toList ++ [' ']⟩ : Key).IsWritten := by
    have spaced := Key.IsWritten.intro (List.forall_mem_nil _) (isName_writtenKey name)
      (List.forall_mem_singleton.2 (show isSpacing ' ' = true from rfl))
    rwa [List.nil_append] at spaced
  refine .entry indent keyed (fun d first => ?_) (List.forall_mem_singleton.2 rfl) isValue ends
  change d ∈ (writtenKey name.toList ++ [' ']).head? at first
  rw [shape] at first
  cases first
  rcases starts with bare | rfl
  · exact isSpacing_of_isBareChar bare
  · decide

theorem isPlain_loose {slot : Slot} {item : Item} (plain : IsPlain (some slot, item)) :
    IsPlain (some (.ofName slot.key.name), item.loose) := by
  cases plain with
  | @value _ sort text margin _ written =>
    generalize shape : slot.line (.value sort text margin) = shown at written
    cases written with
    | entry indent keyed solid space isValue ends =>
      rw [Slot.line, Line.entry.injEq, Item.value.injEq] at shape
      obtain ⟨-, -, rfl, rfl, rfl⟩ := shape
      cases sort with
      | truth b =>
        exact .value rfl (isWritten_line_ofName _ (List.forall_mem_nil _) isValue
          Margin.isWritten_default)
      | plain => exact .value rfl (isWritten_line_ofName _ indent isValue ends)
      | inlineTable => exact .value rfl (isWritten_line_ofName _ indent isValue ends)
    | _ => cases shape

theorem looseValues_cons_some (slot : Slot) (item : Item) (body : Body) :
    looseValues ((some slot, item) :: body) =
      (some (.ofName slot.key.name), item.loose) :: looseValues body := rfl

theorem looseValues_cons_none (item : Item) (body : Body) :
    looseValues ((none, item) :: body) = looseValues body := rfl

theorem slotNames_looseValues (body : Body) : slotNames (looseValues body) = slotNames body := by
  induction body with
  | nil => rfl
  | cons entry body ih =>
    obtain ⟨slot, item⟩ := entry
    cases slot with
    | none => exact ih
    | some slot => exact congrArg (_ :: ·) ih

theorem contents_looseValues (body : Body) : contents (looseValues body) = contents body := by
  induction body with
  | nil => rfl
  | cons entry body ih =>
    obtain ⟨slot, item⟩ := entry
    cases slot with
    | none => rw [looseValues_cons_none, ih, contents]
    | some slot =>
      have same : item.loose.content? = item.content? := by
        rw [Item.loose.eq_def]
        split <;> simp [Item.content?]
      rw [looseValues_cons_some, contents, contents, ih, same]
      rfl

theorem forall_looseValues {content : Body} (plain : ∀ entry ∈ content, IsPlain entry) :
    ∀ entry ∈ looseValues content, IsPlain entry ∧ entry.2.isTabular = false := by
  induction content with
  | nil => exact List.forall_mem_nil _
  | cons entry content ih =>
    rw [List.forall_mem_cons] at plain
    obtain ⟨slot, item⟩ := entry
    cases slot with
    | none => exact ih plain.2
    | some slot =>
      have moved := isPlain_loose plain.1
      refine List.forall_mem_cons.2 ⟨⟨moved, ?_⟩, ih plain.2⟩
      generalize item.loose = value at moved
      cases moved
      rfl

theorem bodyLines_eq_nil_of_keyless {content : Body} (plain : ∀ entry ∈ content, IsPlain entry)
    {path : List Key} (none : bodyLines path content = []) : looseValues content = [] := by
  have keyless := keyless_of_bodyLines_eq_nil (fun entry listed => .inl (plain entry listed)) none
  exact List.filterMap_eq_nil_iff.2 fun entry listed => by rw [keyless entry listed]; rfl

/-- The lines of values end as before, or they end with line feeds now. -/
theorem isClosed_looseValues {content : Body} (plain : ∀ entry ∈ content, IsPlain entry)
    (path : List Key) {later : List Line} (closed : IsClosed (bodyLines [] content ++ later)) :
    IsClosed (bodyLines path (looseValues content) ++ later) := by
  induction content with
  | nil => simpa [looseValues, bodyLines] using closed
  | cons entry content ih =>
    rw [List.forall_mem_cons] at plain
    rw [← List.singleton_append, bodyLines_append, List.append_assoc] at closed
    have onward := ih plain.2 closed.right
    obtain ⟨slot, item⟩ := entry
    cases slot with
    | none => exact onward
    | some slot =>
      obtain ⟨sort, text, margin, rfl⟩ : ∃ sort text margin, item = .value sort text margin := by
        cases plain.1
        exact ⟨_, _, _, rfl⟩
      have line : bodyLines path ((some (.ofName slot.key.name),
          (Item.value sort text margin).loose) :: looseValues content) =
            (Slot.ofName slot.key.name).line (Item.value sort text margin).loose ::
              bodyLines path (looseValues content) := by
        cases sort <;> exact bodyLines_value _ _ _ _ _ _
      rw [looseValues_cons_some, line, List.cons_append, ← List.singleton_append]
      by_cases more : bodyLines path (looseValues content) ++ later = []
      · rw [more]
        exact fun _ listed => by cases listed
      · have filled : bodyLines [] content ++ later ≠ [] := by
          intro none
          rw [List.append_eq_nil_iff] at none
          rw [bodyLines_eq_nil_of_keyless plain.2 none.1, none.2] at more
          exact more (by rw [bodyLines, List.append_nil])
        have closes : Closes margin.ending := by
          refine closed.left filled (slot.line (.value sort text margin)) ?_
          rw [bodyLines_value]
          exact List.mem_cons_self
        refine .append (List.forall_mem_singleton.2 ?_) onward
        cases sort with
        | truth b => exact rfl
        | plain => exact closes
        | inlineTable => exact closes

/-! ### Moving -/

/-- An item that stands alone under its name is placed, and the others after it. -/
theorem moveInto?_cons {source : Body} {name : String} {slot : Slot} {item : Item}
    (found : source.named name = [(slot, item)]) (more : List String) (room : Nat)
    (target : Body) : Body.moveInto? (name :: more) source (room + 1) target =
      Body.moveInto? more source (room + 1) (target.place name item) := by
  rw [Body.moveInto?, Body.moveInto?, List.foldlM_cons, found]
  rfl

theorem place_value {target : Body} (values : ∀ entry ∈ target, entry.2.isTabular = false)
    (ended : target.endLast = target) (name : String) (sort : ValueSort) (text : List Char)
    (margin : Margin) : target.place name (.value sort text margin) =
      target ++ [(some (.ofName name), (Item.value sort text margin).loose)] := by
  have before : target.span (fun entry => !entry.2.isTabular) = (target, []) := by
    have all : ∀ entry ∈ target, (!entry.2.isTabular) = true := fun entry listed => by
      rw [values entry listed]
      rfl
    rw [List.span_eq_takeWhile_dropWhile, List.takeWhile_eq_self_iff.2 all,
      List.dropWhile_eq_nil_iff.2 all]
  unfold Body.place
  dsimp only
  rw [before]
  dsimp only
  rw [ended]
  cases sort <;> rfl

theorem endLast_concat {target : Body} {slot : Option Slot} {sort : ValueSort} {text : List Char}
    {margin : Margin} (closes : Closes margin.ending) :
    Body.endLast (target ++ [(slot, .value sort text margin)]) =
      target ++ [(slot, .value sort text margin)] := by
  have ended : margin.ending.contains '\n' = true :=
    List.contains_iff_mem.2 (List.mem_of_mem_getLast? closes)
  rw [Body.endLast, List.getLast?_concat]
  dsimp only
  rw [ended, if_pos rfl]

/-- The values of a document move one after the other. -/
theorem moveInto?_values {source content : Body} (plain : ∀ entry ∈ content, IsPlain entry)
    (closed : IsClosed (bodyLines [] content))
    (found : ∀ slot item, (some slot, item) ∈ content → source.named slot.key.name = [(slot, item)])
    {target : Body} (values : ∀ entry ∈ target, entry.2.isTabular = false)
    (ended : looseValues content ≠ [] → target.endLast = target) (more : List String)
    (room : Nat) : Body.moveInto? (slotNames content ++ more) source (room + 1) target =
      Body.moveInto? more source (room + 1) (target ++ looseValues content) := by
  induction content generalizing target with
  | nil => rw [looseValues, List.filterMap_nil, List.append_nil]; rfl
  | cons entry content ih =>
    rw [List.forall_mem_cons] at plain
    have lines := closed
    rw [← List.singleton_append, bodyLines_append] at lines
    have onward (target : Body) := @ih plain.2 lines.right
      (fun slot item listed => found slot item (List.mem_cons_of_mem _ listed)) target
    obtain ⟨slot, item⟩ := entry
    cases slot with
    | none => exact onward target values ended
    | some slot =>
      obtain ⟨sort, text, margin, rfl⟩ : ∃ sort text margin, item = .value sort text margin := by
        cases plain.1
        exact ⟨_, _, _, rfl⟩
      have placed := place_value values (ended (List.cons_ne_nil _ _)) slot.key.name sort text
        margin
      have alone := found slot (.value sort text margin) List.mem_cons_self
      have names : slotNames ((some slot, .value sort text margin) :: content) ++ more =
          slot.key.name :: (slotNames content ++ more) := rfl
      rw [names, moveInto?_cons alone, placed, looseValues_cons_some,
        List.append_cons target _ (looseValues content)]
      refine onward _ (List.forall_mem_append.2 ⟨values, List.forall_mem_singleton.2 ?_⟩)
        fun some => ?_
      · cases sort <;> rfl
      · have filled : bodyLines [] content ≠ [] := fun none =>
          some (bodyLines_eq_nil_of_keyless plain.2 none)
        have closes : Closes margin.ending := by
          refine lines.left filled (slot.line (.value sort text margin)) ?_
          rw [bodyLines_value]
          exact List.mem_cons_self
        cases sort with
        | truth b => exact endLast_concat rfl
        | plain => exact endLast_concat closes
        | inlineTable => exact endLast_concat closes

/-- Items with the text of a whole table. -/
structure Laid (target tree : Body) : Prop where
  whole : (Item.table { onWay := some false } tree).IsWhole
  text : ∀ {path : List Key}, path ≠ [] →
    entriesText false (pathText path) target = (bodyLines path tree).flatMap Line.text

/-- A table behind other items of a whole table leaves it whole. -/
theorem Item.IsWhole.concat {entries : Body} {head : Head} (own : head.onWay = some false)
    (whole : (Item.table head entries).IsWhole) {slot : Slot} (heads : slot.Heads) {item : Item}
    (wholeItem : item.IsWhole) (fresh : slot.key.name ∉ slotNames entries) :
    (Item.table head (entries ++ [(some slot, item)])).IsWhole := by
  cases whole with
  | @headed _ content tables _ alone indent ends plain headsTables wholeTables distinct =>
    have split : content ++ tableItems tables ++ [(some slot, item)] =
        content ++ tableItems (tables ++ [(slot, item)]) := by
      rw [tableItems, tableItems, List.map_append, List.append_assoc]
      rfl
    have names : slotNames (content ++ tableItems (tables ++ [(slot, item)])) =
        slotNames (content ++ tableItems tables) ++ [slot.key.name] := by
      rw [← split, slotNames_append]
      rfl
    rw [split]
    exact .headed own alone indent ends plain
      (List.forall_mem_append.2 ⟨headsTables, List.forall_mem_singleton.2 heads⟩)
      (List.forall_mem_append.2 ⟨wholeTables, List.forall_mem_singleton.2 wholeItem⟩)
      (by
        rw [names]
        refine List.nodup_append.2
          ⟨distinct, List.pairwise_singleton _ _, fun name listed other => ?_⟩
        rw [List.mem_singleton]
        rintro rfl rfl
        exact fresh listed)
  | implied way => rw [own] at way; cases way

/-- A line feed behind whole items is a blank line at their end. -/
theorem exists_spaced {tree : Body} (whole : (Item.table { onWay := some false } tree).IsWhole)
    {gap : List Char} (feeds : gap = [] ∨ gap = ['\n']) : ∃ spaced : Body,
      (Item.table { onWay := some false } spaced).IsWhole ∧ slotNames spaced = slotNames tree ∧
        contents spaced = contents tree ∧ ∀ path,
          (bodyLines path spaced).flatMap Line.text =
              (bodyLines path tree).flatMap Line.text ++ gap ∧
            ((∀ line ∈ bodyLines path tree, Closes line.ending) →
              ∀ line ∈ bodyLines path spaced, Closes line.ending) := by
  rcases feeds with rfl | rfl
  · exact ⟨tree, whole, rfl, rfl, fun path => ⟨(List.append_nil _).symm, id⟩⟩
  · obtain ⟨head, entries, longer, same, longerWhole, trailed⟩ := exists_trailed whole
    cases same
    refine ⟨longer, longerWhole, trailed.slotNames_eq, trailed.contents_eq,
      fun path => ⟨?_, fun closes => ?_⟩⟩
    · rw [trailed.bodyLines_eq, List.flatMap_append, List.flatMap_singleton]
      rfl
    · rw [trailed.bodyLines_eq]
      exact List.forall_mem_append.2 ⟨closes, List.forall_mem_singleton.2 rfl⟩

/-- The table that a whole item is placed as: it shows its path, perhaps after a line feed. -/
theorem exists_placed (target : Body) (name : String) {item : Item} (whole : item.IsWhole) :
    ∃ placed gap, target.place name item = target ++ [(some (.ofName name), placed)] ∧
      (gap = [] ∨ gap = ['\n']) ∧ ∀ path, path ≠ [] →
        IsClosed (itemLines path (.ofName name) item) →
          entriesText false (pathText path) [(some (.ofName name), placed)] =
            gap ++ (itemLines path (.ofName name) item).flatMap Line.text := by
  have repathed := whole.repathed
  have follows := whole.followsPath_repathed
  have lines (path : List Key) := whole.itemLines_repathed path (.ofName name)
  have single (name : String) : (Slot.ofName name).dotted = false := rfl
  obtain ⟨head, entries, rfl⟩ := whole.exists_table
  rw [Item.repathed] at repathed follows lines
  obtain ⟨gap, feeds, apart⟩ := text_apart { head with shownPath := none }
    (repathedEntries (Body.isScattered entries) entries) target.endsInBlank
  have text {placed : Item} {gap : List Char} (tabular : placed.isTabular = true)
      (shows : ∀ path slot, placed.text path slot =
        gap ++ (Item.table { head with shownPath := none }
          (repathedEntries (Body.isScattered entries) entries)).text path slot)
      (path : List Key) (filled : path ≠ [])
      (closed : IsClosed (itemLines path (.ofName name) (.table head entries))) :
      entriesText false (pathText path) [(some (.ofName name), placed)] =
        gap ++ (itemLines path (.ofName name) (.table head entries)).flatMap Line.text := by
    have below : pathText? path = some (pathText path) := by
      rw [pathText?, if_neg (by simpa using filled)]
    have place : pathFor false (pathText path) (.ofName name) placed = some (pathText path) := by
      cases placed with
      | table head entries => simp [pathFor, Slot.ofName]
      | tables => rfl
      | _ => cases tabular
    rw [← lines] at closed
    have whole := text_whole repathed follows path (single name) closed
    rw [below, lines] at whole
    rw [entriesText, entriesText, List.append_nil, place, shows, whole]
  rw [Body.place, Body.placeTable, Item.repathed]
  split
  · exact ⟨_, [], rfl, .inl rfl, text rfl fun _ _ => rfl⟩
  · refine ⟨_, gap, rfl, feeds, text ?_ apart⟩
    rw [Item.apart]
    split <;> rfl

/-- One table moves: it is laid behind the others, under the name that it has. -/
theorem Laid.place {target tree : Body} (laid : Laid target tree) {slot : Slot} {item : Item}
    (whole : item.IsWhole) (fresh : slot.key.name ∉ slotNames tree) {rest : List Line}
    (closed : IsClosed (bodyLines [] tree ++ (itemLines [] slot item ++ rest))) :
    ∃ grown, Laid (target.place slot.key.name item) grown ∧
      slotNames grown = slotNames tree ++ [slot.key.name] ∧
      contents grown = contents tree ++ contents [(some slot, item)] ∧
      IsClosed (bodyLines [] grown ++ rest) := by
  obtain ⟨placed, gap, moved, feeds, text⟩ := exists_placed target slot.key.name whole
  obtain ⟨spaced, spacedWhole, spacedNames, kept, lines⟩ := exists_spaced laid.whole feeds
  have grown (path : List Key) :
      bodyLines path (spaced ++ [(some (.ofName slot.key.name), item)]) =
        bodyLines path spaced ++ itemLines path (.ofName slot.key.name) item := by
    rw [bodyLines_append, bodyLines, bodyLines, List.append_nil]
  refine ⟨spaced ++ [(some (.ofName slot.key.name), item)], ⟨?_, fun {path} filled => ?_⟩,
    ?_, ?_, ?_⟩
  · exact spacedWhole.concat rfl (heads_ofName _) whole (by rwa [spacedNames])
  · have ends : IsClosed (itemLines path (.ofName slot.key.name) item) :=
      closed.right.front.congr (ending_itemLines _ _ _ _ _)
    rw [moved, entriesText_append, laid.text filled, text path filled ends, grown,
      List.flatMap_append, (lines path).1, List.append_assoc]
  · rw [slotNames_append, spacedNames]
    rfl
  · have single : contents [(some (Slot.ofName slot.key.name), item)] =
        contents [(some slot, item)] := by
      rw [contents, contents]
      rfl
    rw [contents_append, kept, single]
  · have filled : itemLines [] slot item ++ rest ≠ [] := by simp [itemLines_ne_nil whole]
    rw [grown, List.append_assoc]
    refine .append ((lines []).2 (closed.left filled)) (closed.right.congr ?_)
    rw [List.map_append, List.map_append, ending_itemLines [] [] (.ofName slot.key.name) slot]

/-- The tables of a document move one after the other. -/
theorem moveInto?_tables {source : Body} {tables : List (Slot × Item)}
    (whole : ∀ entry ∈ tables, entry.2.IsWhole)
    (found : ∀ entry ∈ tables, source.named entry.1.key.name = [entry]) {target tree : Body}
    (laid : Laid target tree)
    (distinct : (slotNames tree ++ slotNames (tableItems tables)).Nodup)
    (closed : IsClosed (bodyLines [] tree ++ bodyLines [] (tableItems tables))) (room : Nat) :
    ∃ moved grown,
      Body.moveInto? (slotNames (tableItems tables)) source (room + 1) target = .ok moved ∧
        Laid moved grown ∧ contents grown = contents tree ++ contents (tableItems tables) ∧
          IsClosed (bodyLines [] grown) := by
  induction tables generalizing target tree with
  | nil =>
    have none : contents (tableItems []) = [] := by rw [tableItems, List.map_nil, contents]
    rw [none, List.append_nil]
    refine ⟨target, tree, rfl, laid, rfl, closed.front⟩
  | cons entry tables ih =>
    obtain ⟨slot, item⟩ := entry
    rw [List.forall_mem_cons] at whole found
    have names : slotNames (tableItems ((slot, item) :: tables)) =
        slot.key.name :: slotNames (tableItems tables) := rfl
    have split : bodyLines [] (tableItems ((slot, item) :: tables)) =
        itemLines [] slot item ++ bodyLines [] (tableItems tables) := by
      rw [bodyLines_tables, bodyLines_tables, List.flatMap_cons]
    rw [split] at closed
    rw [names] at distinct
    have fresh : slot.key.name ∉ slotNames tree := fun member =>
      (List.nodup_append.1 distinct).2.2 _ member _ List.mem_cons_self rfl
    obtain ⟨next, laidNext, namesNext, kept, closedNext⟩ := laid.place whole.1 fresh closed
    obtain ⟨final, grown, read, laidFinal, same, closedFinal⟩ := ih whole.2 found.2 laidNext (by
      rw [namesNext, List.append_assoc]
      exact distinct) closedNext
    refine ⟨final, grown, ?_, laidFinal, ?_, closedFinal⟩
    · rw [names, moveInto?_cons found.1]
      exact read
    · rw [same, kept, List.append_assoc, ← contents_append]
      rfl

/-- What moves has the text of a whole table that holds the same. -/
theorem moveInto?_whole {body : Body} (isWhole : body.IsWhole) (room : Nat) :
    ∃ moved tree, body.moveInto? body.names (room + 1) [] = .ok moved ∧ Laid moved tree ∧
      contents tree = contents body ∧ IsClosed (bodyLines [] tree) := by
  cases isWhole with
  | @intro content tables plain heads whole distinct closed =>
    have values := forall_looseValues plain
    have names := slotNames_looseValues content
    rw [bodyLines_append] at closed
    have laid : Laid (looseValues content) (looseValues content ++ tableItems []) := by
      refine ⟨.headed rfl rfl (List.forall_mem_nil _) Margin.isWritten_default
        (fun entry listed => (values entry listed).1) (List.forall_mem_nil _)
        (List.forall_mem_nil _) ?_, fun {path} _ => ?_⟩
      · rw [slotNames_append] at distinct ⊢
        rw [names]
        simpa [tableItems, slotNames] using (List.nodup_append.1 distinct).1
      · have none : tableItems [] = [] := rfl
        rw [none, List.append_nil]
        exact entriesText_plain _ path fun entry listed => (values entry listed).1
    have settled : looseValues content ++ tableItems [] = looseValues content := List.append_nil _
    rw [settled] at laid
    have early := @moveInto?_values _ content plain closed.front
      (fun slot item listed => named_eq_singleton distinct slot (List.mem_append_left _ listed))
      [] (List.forall_mem_nil _) (fun _ => rfl) (slotNames (tableItems tables)) room
    obtain ⟨moved, grown, late, laidMoved, same, closedMoved⟩ := moveInto?_tables whole
      (fun entry listed => named_eq_singleton distinct entry.1
        (List.mem_append_right _ (List.mem_map.2 ⟨entry, listed, rfl⟩)))
      laid (by rwa [names, ← slotNames_append]) (isClosed_looseValues plain [] closed) room
    refine ⟨moved, grown, ?_, laidMoved, ?_, closedMoved⟩
    · rw [names_eq distinct, slotNames_append, early]
      exact late
    · rw [same, contents_looseValues, contents_append]

end TypstMarkup.Toml
