import TypstMarkup.Toml.Nested
import TypstMarkup.Proofs.Toml.Scanned

/-!
Written documents moved under a section. A document of sections with distinct names is taken apart
into its lines, its lines are put together into one table for each section, and the tables move as
they are. What comes out is the document that shows the same sections below the path.
-/
namespace TypstMarkup.Toml

/-! ### Lines -/

/-- A line of a document whose tables stand at the top, with numbers that read as words. -/
inductive Statement.Shallow : Statement → Prop
  | gap : Shallow .gap
  | heading {name : String} (named : Named [name]) : Shallow (.heading [name])
  | setting (key : String) {node : Node} (simple : Simple node) (worded : IsWorded node) :
    Shallow (.setting key node)

/-- A line as it is read with its layout. -/
def Statement.laid : Statement → Line
  | .gap => .blank ['\n']
  | .heading path => .header { path := path.map .ofName, inArray := false, margin := {} }
  | .setting key node => settingLine key node

theorem lines_cons {source rest : List Char} {line : Line}
    (read : line? source = .ok (line, rest)) (shorter : rest.length < source.length) :
    lines source = line :: lines rest := by
  have filled : source.isEmpty = false := by
    rw [List.isEmpty_eq_false_iff]
    rintro rfl
    cases shorter
  rw [lines, filled, if_neg Bool.false_ne_true, read]
  dsimp only
  rw [dif_pos shorter]

theorem lines_linesText {statements : List Statement} (shallow : ∀ s ∈ statements, s.Shallow) :
    lines (linesText statements) = statements.map Statement.laid := by
  induction statements with
  | nil => rw [linesText, List.flatMap_nil, lines]; rfl
  | cons s rest ih =>
    rw [List.forall_mem_cons] at shallow
    have whole : linesText (s :: rest) = s.line ++ '\n' :: linesText rest := by
      simp [linesText]
    have read : line? (s.line ++ '\n' :: linesText rest) = .ok (s.laid, linesText rest) := by
      cases shallow.1 with
      | gap => exact line?_gap _
      | heading named => exact line?_heading _ named
      | setting key simple worded => exact line?_setting _ simple worded key
    rw [whole, lines_cons read (by simp; omega), ih shallow.2, List.map_cons]

/-! ### Names of items -/

/-- The names of the items of a table, one for each item. -/
def slotNames (body : Body) : List String :=
  body.filterMap fun entry => entry.1.map fun slot => slot.key.name

theorem named_cons_some (slot : Slot) (item : Item) (body : Body) (name : String) :
    Body.named ((some slot, item) :: body) name =
      if slot.key.name = name then (slot, item) :: Body.named body name
      else Body.named body name := by
  by_cases same : slot.key.name = name
  · simp [Body.named, same]
  · simp [Body.named, same]

theorem named_eq_nil {body : Body} {name : String} (absent : name ∉ slotNames body) :
    Body.named body name = [] := by
  induction body with
  | nil => rfl
  | cons entry rest ih =>
    obtain ⟨slot, item⟩ := entry
    cases slot with
    | none => exact ih absent
    | some slot =>
      rw [slotNames, List.filterMap_cons, Option.map_some, List.mem_cons, not_or] at absent
      rw [named_cons_some, if_neg (Ne.symm absent.1), ih absent.2]

theorem named_eq_singleton {body : Body} (distinct : (slotNames body).Nodup) (slot : Slot)
    {item : Item} (listed : (some slot, item) ∈ body) :
    Body.named body slot.key.name = [(slot, item)] := by
  induction body with
  | nil => cases listed
  | cons entry rest ih =>
    rcases List.mem_cons.1 listed with rfl | later
    · rw [slotNames, List.filterMap_cons, Option.map_some, List.nodup_cons] at distinct
      rw [named_cons_some, if_pos rfl, named_eq_nil distinct.1]
    · obtain ⟨first, other⟩ := entry
      cases first with
      | none => exact ih distinct later
      | some first =>
        rw [slotNames, List.filterMap_cons, Option.map_some, List.nodup_cons] at distinct
        have different : first.key.name ≠ slot.key.name := by
          intro same
          refine distinct.1 (List.mem_filterMap.2 ⟨_, later, ?_⟩)
          rw [Option.map_some, same]
        rw [named_cons_some, if_neg different]
        exact ih distinct.2 later

theorem not_isScattered {body : Body} (distinct : (slotNames body).Nodup) (name : String) :
    body.isScattered name = false := by
  have few : (Body.named body name).length ≤ 1 := by
    induction body with
    | nil => exact Nat.zero_le 1
    | cons entry rest ih =>
      obtain ⟨slot, item⟩ := entry
      cases slot with
      | none => exact ih distinct
      | some slot =>
        rw [slotNames, List.filterMap_cons, Option.map_some, List.nodup_cons] at distinct
        rw [named_cons_some]
        split
        · rename_i same
          subst same
          rw [named_eq_nil distinct.1]
          exact Nat.le_refl 1
        · exact ih distinct.2
  rw [Body.isScattered, decide_eq_false_iff_not]
  omega

theorem eraseDups_of_nodup {names : List String} (distinct : names.Nodup) :
    names.eraseDups = names := by
  induction names with
  | nil => rfl
  | cons name rest ih =>
    rw [List.nodup_cons] at distinct
    have others : (rest.filter fun other => !other == name) = rest := by
      rw [List.filter_eq_self]
      intro other listed
      have different : other ≠ name := by
        rintro rfl
        exact distinct.1 listed
      simpa using different
    rw [List.eraseDups_cons, others, ih distinct.2]

theorem names_eq {body : Body} (distinct : (slotNames body).Nodup) : body.names = slotNames body :=
  eraseDups_of_nodup distinct

theorem forM_eq_ok {α : Type} {items : List α} {f : α → Except Fault Unit}
    (each : ∀ a ∈ items, f a = .ok ()) : items.forM f = .ok () := by
  induction items with
  | nil => rfl
  | cons a rest ih =>
    rw [List.forall_mem_cons] at each
    rw [List.forM_eq_forM, List.forM_cons, each.1]
    exact ih each.2

/-- Tables with distinct names need no comparison. -/
theorem check_eq_ok {body : Body} (distinct : (slotNames body).Nodup) (room : Nat) :
    body.check room = .ok () :=
  forM_eq_ok fun name _ => by rw [not_isScattered distinct, if_neg Bool.false_ne_true]

theorem checkName_eq_ok {body : Body} (distinct : (slotNames body).Nodup) (room : Nat)
    (name : String) : body.checkName room name = .ok () := by
  rw [Body.checkName, not_isScattered distinct, if_neg Bool.false_ne_true]

/-- A new name goes to the end. -/
theorem add?_new {body : Body} (distinct : (slotNames body).Nodup) (slot : Slot)
    (fresh : slot.key.name ∉ slotNames body) (room : Nat) (checks : Bool) (item : Item) :
    add? (room + 1) checks slot item body = .ok (body ++ [(some slot, item)]) := by
  have last : (body.named slot.key.name).getLast? = none := by
    rw [named_eq_nil fresh]
    rfl
  rw [add?, not_isScattered distinct, if_neg Bool.false_ne_true]
  · rfl
  · exact last

/-! ### Sections -/

/-- A setting among the items of its table. -/
def settingItem (entry : String × Node) : Option Slot × Item :=
  (some { key := ⟨entry.1, writtenKey entry.1.toList ++ [' ']⟩, separator := ['=', ' '] },
    .value (sortOf entry.2) (writtenNode entry.2) {})

/-- A blank line among the items of a table. -/
def gapItem : Option Slot × Item := (none, .blank ['\n'])

/-- The items of a section, with a blank line at the end where another section follows. -/
def sectionItems (s : Section) (apart : Bool) : Body :=
  s.2.map settingItem ++ if apart then [gapItem] else []

theorem slotNames_append (first later : Body) :
    slotNames (first ++ later) = slotNames first ++ slotNames later :=
  List.filterMap_append

theorem slotNames_settings (entries : Table) :
    slotNames (entries.map settingItem) = entries.map Prod.fst := by
  rw [slotNames, List.filterMap_map, ← List.filterMap_eq_map]
  rfl

theorem slotNames_sectionItems (s : Section) (apart : Bool) :
    slotNames (sectionItems s apart) = s.2.map Prod.fst := by
  rw [sectionItems, slotNames_append, slotNames_settings]
  cases apart <;> exact List.append_nil _

theorem fill?_settings (entries : Table) {more : Table}
    (distinct : ((entries ++ more).map Prod.fst).Nodup) (room : Nat) (later : List Line) :
    fill? (room + 1) true (entries.map settingItem)
        ((more.map fun entry => settingLine entry.1 entry.2) ++ later) =
      fill? (room + 1) true ((entries ++ more).map settingItem) later := by
  induction more generalizing entries with
  | nil => rw [List.map_nil, List.nil_append, List.append_nil]
  | cons entry more ih =>
    rw [List.append_cons] at distinct ⊢
    have after : (slotNames ((entries ++ [entry]).map settingItem)).Nodup := by
      rw [slotNames_settings]
      rw [List.map_append] at distinct
      exact (List.nodup_append.1 distinct).1
    have split := after
    rw [List.map_append, slotNames_append, List.nodup_append] at split
    have fresh : entry.1 ∉ slotNames (entries.map settingItem) := fun member =>
      split.2.2 _ member _ List.mem_cons_self rfl
    have added : Body.addPath? (room + 1) false [⟨entry.1, writtenKey entry.1.toList ++ [' ']⟩]
        ['=', ' '] (.value (sortOf entry.2) (writtenNode entry.2) {}) (entries.map settingItem) =
          .ok ((entries ++ [entry]).map settingItem) := by
      rw [List.map_append]
      exact add?_new split.1 _ fresh room false _
    rw [List.map_cons, List.cons_append, settingLine, fill?, Bool.not_true, added]
    simp only [bind, Except.bind]
    rw [checkName_eq_ok after]
    exact ih _ distinct

/-- What comes behind a section: nothing, or another one. -/
def Ahead (later : List Line) : Prop :=
  later = [] ∨ ∃ name more, later = (Statement.heading [name]).laid :: more

section

variable {later : List Line} (ahead : Ahead later)

include ahead

theorem fill?_ahead (room : Nat) (inTable : Bool) (body : Body) :
    fill? room inTable body later = .ok (body, later) := by
  rcases ahead with rfl | ⟨name, more, rfl⟩ <;> rfl

theorem children?_ahead (room budget : Nat) (name : String) (arrays : List (List String))
    (body : Body) :
    children? room (budget + 1) [name] arrays body later = .ok (body, later) := by
  rw [children?]
  rcases ahead with rfl | ⟨other, more, rfl⟩
  · rfl
  · have path : (((Statement.heading [other]).laid :: more).head?.bind Line.headerPath?) =
        some ([other], false) := rfl
    have apart : ([name].isPrefixOf [other] && [name] != [other]) = false := by
      by_cases same : name = other
      · simp [same]
      · simp [List.isPrefixOf, same]
    rw [path]
    exact if_neg (Bool.eq_false_iff.1 apart)

end

/-- The table of a section as it stands under its header. -/
def sectionTableItem (s : Section) (apart : Bool) : Item :=
  .table { onWay := some false, shownPath := some (pathText [.ofName s.1]) } (sectionItems s apart)

/-- The lines of a section below no path, with a blank line at the end where another follows. -/
def laidSection (s : Section) (apart : Bool) : List Line :=
  (Statement.heading [s.1]).laid ::
    ((s.2.map fun entry => settingLine entry.1 entry.2) ++ if apart then [Line.blank ['\n']] else [])

theorem addPlain_gap (entries : Table) :
    Body.addPlain (.blank ['\n']) (entries.map settingItem) =
      entries.map settingItem ++ [gapItem] := by
  rw [Body.addPlain.eq_def, List.getLast?_map]
  cases entries.getLast? <;> rfl

/-- The lines of a section make up its table. -/
theorem section?_laid {s : Section} (distinct : (s.2.map Prod.fst).Nodup) (apart : Bool)
    {later : List Line} (ahead : Ahead later) (room budget : Nat) : Toml.section? (room + 1)
      (budget + 2) [] [] (laidSection s apart ++ later) =
        .ok (.ofName s.1, sectionTableItem s apart, later) := by
  have filled : fill? (room + 1) true [] (((s.2.map fun entry => settingLine entry.1 entry.2) ++
      if apart then [Line.blank ['\n']] else []) ++ later) = .ok (sectionItems s apart, later) := by
    have settings := fill?_settings [] distinct room
      ((if apart then [Line.blank ['\n']] else []) ++ later)
    rw [List.append_assoc]
    refine settings.trans ?_
    cases apart with
    | false =>
      have items : sectionItems s false = s.2.map settingItem := List.append_nil _
      rw [items]
      exact fill?_ahead ahead _ _ _
    | true =>
      have items : sectionItems s true = Body.addPlain (.blank ['\n']) (s.2.map settingItem) :=
        (addPlain_gap s.2).symm
      rw [items]
      exact fill?_ahead ahead _ _ _
  have distinct : (slotNames (sectionItems s apart)).Nodup := by
    rwa [slotNames_sectionItems]
  have children := children?_ahead ahead (room + 1) budget s.1 [] (sectionItems s apart)
  rw [laidSection, List.cons_append, Statement.laid, section?]
  have path : Opening.names { path := [s.1].map .ofName, inArray := false, margin := {} } = [s.1] :=
    rfl
  simp only [bind, Except.bind, filled, path, children, check_eq_ok distinct]
  rfl

/-- Sections, each with whether another one follows. -/
def spaced : List Section → List (Section × Bool)
  | [] => []
  | s :: rest => (s, !rest.isEmpty) :: spaced rest

theorem map_laid_sectionLines (s : Section) :
    (sectionLines [] s).map Statement.laid = laidSection s false := by
  rw [sectionLines, List.map_cons, List.map_map, laidSection, List.nil_append]
  exact congrArg (_ :: ·) (List.append_nil _).symm

theorem map_laid_sectionsLines (sections : List Section) :
    (sectionsLines [] sections).map Statement.laid =
      (spaced sections).flatMap fun s => laidSection s.1 s.2 := by
  induction sections with
  | nil => rfl
  | cons s rest ih =>
    cases rest with
    | nil =>
      rw [sectionsLines, List.map_singleton, List.intercalate_singleton, map_laid_sectionLines]
      exact (List.append_nil _).symm
    | cons next rest =>
      have apart : laidSection s true = laidSection s false ++ [Line.blank ['\n']] := by
        simp [laidSection]
      have spaces : spaced (s :: next :: rest) = (s, true) :: spaced (next :: rest) := rfl
      rw [sectionsLines] at ih ⊢
      rw [spaces, List.flatMap_cons, ← ih, apart, List.map_cons, List.map_cons,
        List.intercalate_cons_cons, ← List.map_cons, List.map_append, List.map_append,
        map_laid_sectionLines]
      rfl

theorem ahead_laid (sections : List Section) :
    Ahead ((spaced sections).flatMap fun s => laidSection s.1 s.2) := by
  cases sections with
  | nil => exact .inl rfl
  | cons s rest => exact .inr ⟨s.1, _, rfl⟩

/-- The tables of sections among the items of a document. -/
def sectionTables (sections : List Section) : Body :=
  (spaced sections).map fun s => (some (.ofName s.1.1), sectionTableItem s.1 s.2)

theorem slotNames_sectionTables (sections : List Section) :
    slotNames (sectionTables sections) = sections.map Prod.fst := by
  induction sections with
  | nil => rfl
  | cons s rest ih =>
    rw [sectionTables] at ih ⊢
    rw [spaced, List.map_cons, slotNames, List.filterMap_cons, ← slotNames, ih]
    rfl

theorem tables?_laid {sections : List Section}
    (keys : ∀ s ∈ sections, (s.2.map Prod.fst).Nodup) {body : Body}
    (distinct : (slotNames body ++ sections.map Prod.fst).Nodup) (room : Nat) {budget : Nat}
    (enough : sections.length + 2 ≤ budget) :
    tables? (room + 1) budget body ((spaced sections).flatMap fun s => laidSection s.1 s.2) =
      .ok (body ++ sectionTables sections) := by
  induction sections generalizing body budget with
  | nil =>
    obtain ⟨budget, rfl⟩ := Nat.exists_eq_add_of_le' enough
    rw [sectionTables, spaced, List.map_nil, List.append_nil, List.flatMap_nil]
    rfl
  | cons s rest ih =>
    obtain ⟨budget, rfl⟩ := Nat.exists_eq_add_of_le' enough
    rw [List.forall_mem_cons] at keys
    rw [List.map_cons] at distinct
    have split := List.nodup_append.1 distinct
    have fresh : s.1 ∉ slotNames body := fun member =>
      split.2.2 _ member _ List.mem_cons_self rfl
    have first := section?_laid keys.1 (!rest.isEmpty) (ahead_laid rest) room
      (budget + rest.length)
    have added := add?_new split.1 { key := .ofName s.1 } fresh room true
      (sectionTableItem s !rest.isEmpty)
    have later : tables? (room + 1) (budget + rest.length + 2)
        (body ++ [(some { key := .ofName s.1 }, sectionTableItem s !rest.isEmpty)])
        ((spaced rest).flatMap fun s => laidSection s.1 s.2) =
          .ok (body ++ [(some { key := .ofName s.1 }, sectionTableItem s !rest.isEmpty)] ++
            sectionTables rest) := by
      refine ih keys.2 ?_ (by omega)
      rw [slotNames_append, List.append_assoc]
      exact distinct
    have size : budget + ((s :: rest).length + 2) = budget + rest.length + 2 + 1 := by
      rw [List.length_cons]
      omega
    have lines : laidSection s (!rest.isEmpty) ++ ((spaced rest).flatMap fun s =>
        laidSection s.1 s.2) = (Statement.heading [s.1]).laid :: (((s.2.map fun entry =>
          settingLine entry.1 entry.2) ++ if !rest.isEmpty then [Line.blank ['\n']] else []) ++
            (spaced rest).flatMap fun s => laidSection s.1 s.2) := rfl
    rw [spaced, List.flatMap_cons, size]
    rw [lines] at first ⊢
    rw [tables?]
    simp only [bind, Except.bind, first]
    rw [added]
    refine later.trans ?_
    rw [List.append_assoc]
    rfl

theorem length_le_laid (sections : List Section) :
    sections.length ≤ ((spaced sections).flatMap fun s => laidSection s.1 s.2).length := by
  induction sections with
  | nil => exact Nat.le_refl _
  | cons s rest ih =>
    rw [spaced, List.flatMap_cons, List.length_append, List.length_cons, laidSection,
      List.length_cons]
    omega

/-! ### Documents -/

/-- What stands above the first table of a document: a comment and a blank line. -/
def topItems (comment : List Char) : Body :=
  [(none, .comment ('#' :: (comment ++ ['\n']))), gapItem]

section

variable {comment : List Char} (plain : ∀ c ∈ comment, isControl c = false)
  {sections : List Section} (shallow : ∀ s ∈ sectionsLines [] sections, s.Shallow)
  (keys : ∀ s ∈ sections, (s.2.map Prod.fst).Nodup) (distinct : (sections.map Prod.fst).Nodup)

include plain shallow keys distinct

theorem ofText?_document :
    Body.ofText? ('#' :: (comment ++ '\n' :: linesText (.gap :: sectionsLines [] sections))) =
      .ok (topItems comment ++ sectionTables sections) := by
  have cut : lines ('#' :: (comment ++ '\n' :: linesText (.gap :: sectionsLines [] sections))) =
      .comment ('#' :: (comment ++ ['\n'])) :: .blank ['\n'] ::
        (spaced sections).flatMap fun s => laidSection s.1 s.2 := by
    have all : ∀ s ∈ Statement.gap :: sectionsLines [] sections, s.Shallow :=
      List.forall_mem_cons.2 ⟨.gap, shallow⟩
    rw [lines_cons (line?_comment _ plain) (by simp; omega), lines_linesText all, List.map_cons,
      map_laid_sectionsLines]
    rfl
  have filled (room : Nat) : fill? room false [] (.comment ('#' :: (comment ++ ['\n'])) ::
      .blank ['\n'] :: (spaced sections).flatMap fun s => laidSection s.1 s.2) =
        .ok (topItems comment, (spaced sections).flatMap fun s => laidSection s.1 s.2) :=
    fill?_ahead (ahead_laid sections) room false _
  have length := length_le_laid sections
  have names : (slotNames (topItems comment) ++ sections.map Prod.fst).Nodup := distinct
  rw [Body.ofText?, cut]
  simp only [bind, Except.bind, filled]
  exact tables?_laid keys names _ (by omega)

end

/-! ### Moving -/

/-- The table of a section where nothing but the path to it decides what its header shows. -/
def movedTable (s : Section) (apart : Bool) : Option Slot × Item :=
  (some (.ofName s.1), .table { onWay := some false } (sectionItems s apart))

/-- The tables of sections as they stand below another table. -/
def movedTables (sections : List Section) : Body :=
  (spaced sections).map fun s => movedTable s.1 s.2

theorem repathedEntries_eq {body : Body} (values : ∀ entry ∈ body, entry.2.isTabular = false)
    (p : String → Bool) : repathedEntries p body = body := by
  induction body with
  | nil => rw [repathedEntries]
  | cons entry rest ih =>
    rw [List.forall_mem_cons] at values
    obtain ⟨slot, item⟩ := entry
    have same : item.repathed = item := by
      have value := values.1
      cases item with
      | table _ _ => cases value
      | tables _ => cases value
      | _ => rw [Item.repathed] <;> simp
    rw [repathedEntries, ih values.2, same, ite_self]

theorem isTabular_sectionItems {s : Section} {apart : Bool} {entry : Option Slot × Item}
    (listed : entry ∈ sectionItems s apart) : entry.2.isTabular = false := by
  rw [sectionItems, List.mem_append] at listed
  rcases listed with setting | gap
  · obtain ⟨entry, -, rfl⟩ := List.mem_map.1 setting
    rfl
  · cases apart with
    | false => cases gap
    | true =>
      rw [List.mem_singleton.1 gap]
      rfl

/-- The table of a section is placed as it is, where it comes first or after a blank line. -/
theorem place_section {target : Body} (clear : target = [] ∨ target.endsInBlank = true)
    (s : Section) (apart : Bool) :
    target.place s.1 (sectionTableItem s apart) = target ++ [movedTable s apart] := by
  have moved : (sectionTableItem s apart).repathed =
      .table { onWay := some false } (sectionItems s apart) := by
    rw [sectionTableItem, Item.repathed,
      repathedEntries_eq fun entry => isTabular_sectionItems]
  rw [sectionTableItem] at moved ⊢
  rw [Body.place, Body.placeTable, moved]
  rcases clear with rfl | blank
  · rfl
  · have same : Item.apart true (.table { onWay := some false } (sectionItems s apart)) =
        .table { onWay := some false } (sectionItems s apart) := rfl
    rw [blank, same, ite_self]
    rfl

theorem endsInBlank_moved (target : Body) (s : Section) :
    (target ++ [movedTable s true]).endsInBlank = true := by
  have gap : (sectionItems s true).getLast? = some gapItem := List.getLast?_concat
  rw [Body.endsInBlank, List.getLast?_concat, movedTable]
  dsimp only
  rw [gap]
  rfl

/-- The tables of a document of sections move one after the other. -/
theorem moveInto?_sections {source : Body} {sections : List Section}
    (found : ∀ s ∈ spaced sections,
      source.named s.1.1 = [(.ofName s.1.1, sectionTableItem s.1 s.2)])
    (target : Body) (clear : sections ≠ [] → target = [] ∨ target.endsInBlank = true)
    (room : Nat) :
    Body.moveInto? (sections.map Prod.fst) source (room + 1) target =
      .ok (target ++ movedTables sections) := by
  rw [Body.moveInto?]
  induction sections generalizing target with
  | nil => exact congrArg Except.ok (List.append_nil target).symm
  | cons s rest ih =>
    rw [spaced, List.forall_mem_cons] at found
    have placed := place_section (clear (List.cons_ne_nil s rest)) s (!rest.isEmpty)
    have onward (more : rest ≠ []) : target ++ [movedTable s (!rest.isEmpty)] = [] ∨
        (target ++ [movedTable s (!rest.isEmpty)]).endsInBlank = true := by
      rw [List.isEmpty_eq_false_iff.2 more]
      exact .inr (endsInBlank_moved target s)
    rw [List.map_cons, List.foldlM_cons, found.1]
    dsimp only
    rw [placed]
    refine (ih found.2 _ onward).trans ?_
    rw [List.append_assoc]
    rfl

theorem named_sectionTables (comment : List Char) {sections : List Section}
    (distinct : (sections.map Prod.fst).Nodup) {s : Section × Bool} (listed : s ∈ spaced sections) :
    (topItems comment ++ sectionTables sections).named s.1.1 =
      [(.ofName s.1.1, sectionTableItem s.1 s.2)] := by
  have names : (slotNames (topItems comment ++ sectionTables sections)).Nodup := by
    rw [slotNames_append, slotNames_sectionTables]
    exact distinct
  refine named_eq_singleton names (.ofName s.1.1) (List.mem_append_right _ ?_)
  exact List.mem_map.2 ⟨s, listed, rfl⟩

theorem nested?_document (comment : List Char) {sections : List Section}
    (distinct : (sections.map Prod.fst).Nodup) (way : String) (rest : List String) (room : Nat) :
    nested? way rest (room + 1) (topItems comment ++ sectionTables sections) =
      .ok (topItems comment ++ [(some (Slot.ofName way),
        (sectionTable ((way :: rest).getLastD way) (movedTables sections) (way :: rest)))]) := by
  have top : (topItems comment ++ sectionTables sections).takeWhile (fun entry => entry.1.isNone) =
      topItems comment := by
    cases sections <;> rfl
  have names : (topItems comment ++ sectionTables sections).names = sections.map Prod.fst := by
    have slots : slotNames (topItems comment ++ sectionTables sections) =
        sections.map Prod.fst := by
      rw [slotNames_append, slotNames_sectionTables]
      rfl
    rw [names_eq (slots ▸ distinct), slots]
  have moved := moveInto?_sections (fun s => named_sectionTables comment distinct)
    [] (fun _ => .inl rfl) room
  rw [nested?, top, names]
  simp only [bind, Except.bind, moved]
  rfl

/-! ### Text -/

theorem entriesText_append (dotted : Bool) (path : List Char) (first later : Body) :
    entriesText dotted path (first ++ later) =
      entriesText dotted path first ++ entriesText dotted path later := by
  induction first with
  | nil => simp [entriesText]
  | cons entry rest ih =>
    obtain ⟨slot, item⟩ := entry
    cases slot with
    | none => cases item <;> simp [entriesText, ih]
    | some slot => simp [entriesText, ih]

theorem entriesText_settings (path : List Char) (entries : Table) :
    entriesText false path (entries.map settingItem) =
      linesText (entries.map fun entry => .setting entry.1 entry.2) := by
  induction entries with
  | nil =>
    rw [List.map_nil, entriesText]
    rfl
  | cons entry rest ih =>
    have shape : linesText ((entry :: rest).map fun entry => .setting entry.1 entry.2) =
        (Statement.setting entry.1 entry.2).line ++ ['\n'] ++
          linesText (rest.map fun entry => .setting entry.1 entry.2) := rfl
    rw [shape, ← ih, List.map_cons, settingItem, entriesText, Item.text]
    simp [pathFor, below, Statement.line]

theorem entriesText_section (path : List Char) (s : Section) (apart : Bool) :
    entriesText false path (sectionItems s apart) =
      linesText (s.2.map fun entry => .setting entry.1 entry.2) ++ gapText apart := by
  rw [sectionItems, entriesText_append, entriesText_settings]
  cases apart with
  | false => simp [entriesText, gapText]
  | true => simp [entriesText, gapText, gapItem]

theorem entriesText_moved (path : List Char) (s : Section) (apart : Bool) :
    entriesText false path [movedTable s apart] =
      '[' :: path ++ '.' :: writtenKey s.1.toList ++ [']', '\n'] ++
        linesText (s.2.map fun entry => .setting entry.1 entry.2) ++ gapText apart := by
  have header : tableHeader { onWay := some false } false (path ++ '.' :: writtenKey s.1.toList)
      (sectionItems s apart) = '[' :: path ++ '.' :: writtenKey s.1.toList ++ [']', '\n'] := by
    simp [tableHeader, Head.isOnWay, headerLine]
  rw [movedTable, entriesText, Item.text]
  simp [pathFor, below, Slot.ofName, Key.ofName, header, entriesText_section, entriesText]

theorem pathText_concat {path : List Key} (filled : path ≠ []) (key : Key) :
    pathText (path ++ [key]) = pathText path ++ '.' :: key.written := by
  induction path with
  | nil => exact absurd rfl filled
  | cons first rest ih =>
    cases rest with
    | nil => simp [pathText, List.intercalate_cons_cons]
    | cons next rest =>
      have later := ih (List.cons_ne_nil next rest)
      have cons (keys : List Key) : pathText (first :: next :: keys) =
          first.written ++ ['.'] ++ pathText (next :: keys) := by
        simp [pathText, List.intercalate_cons_cons]
      rw [List.cons_append] at later
      rw [List.cons_append, List.cons_append, cons, cons, later]
      simp

theorem entriesText_movedTables {path : List String} (filled : path ≠ [])
    (sections : List Section) :
    entriesText false (pathText (path.map Key.ofName)) (movedTables sections) =
      linesText (sectionsLines path sections) := by
  have line (s : Section) : (Statement.heading (path ++ [s.1])).line =
      '[' :: pathText (path.map Key.ofName) ++ '.' :: writtenKey s.1.toList ++ [']'] := by
    rw [Statement.line, List.map_append, List.map_singleton,
      pathText_concat (by simpa using filled)]
    simp [Key.ofName]
  have single (s : Section) (apart : Bool) :
      entriesText false (pathText (path.map Key.ofName)) [movedTable s apart] =
        linesText (sectionLines path s) ++ gapText apart := by
    rw [entriesText_moved, sectionLines, linesText, linesText, List.flatMap_cons, line]
    simp
  induction sections with
  | nil =>
    rw [movedTables, spaced, List.map_nil, entriesText]
    rfl
  | cons s rest ih =>
    have whole : movedTables (s :: rest) = [movedTable s (!rest.isEmpty)] ++ movedTables rest := rfl
    rw [whole, entriesText_append, single, ih]
    cases rest with
    | nil => simp [sectionsLines, linesText, gapText]
    | cons next rest =>
      simp [sectionsLines, List.intercalate_cons_cons, linesText, gapText, Statement.line]

theorem below_below (path : Option (List Char)) (first next : String) (more : List String) :
    below (some (below path (writtenKey first.toList)))
        (pathText ((next :: more).map Key.ofName)) =
      below path (pathText ((first :: next :: more).map Key.ofName)) := by
  cases path <;> simp [below, pathText, List.intercalate_cons_cons, Key.ofName]

/-- The table at the end of a path has a header. -/
theorem tableHeader_last (last : String) (path : List Char) (items : Body) :
    tableHeader { onWay := some (last != last) } false path items =
      '[' :: path ++ [']', '\n'] := by
  simp [tableHeader, Head.isOnWay, headerLine]

/-- A table on the way to it has none. -/
theorem tableHeader_onWay {level last : String} (other : level ≠ last) (path : List Char)
    (slot : Slot) {table : Item} (tabular : table.isTabular = true) :
    tableHeader { onWay := some (level != last) } false path [(some slot, table)] = [] := by
  have onWay : (level != last) = true := bne_iff_ne.2 other
  simp [tableHeader, Head.isOnWay, onWay, tabular]

theorem entriesText_sectionTable (path : List Char) (last next : String) (items : Body)
    (more : List String) :
    entriesText false path [(some (.ofName next), sectionTable last items (next :: more))] =
      (sectionTable last items (next :: more)).text (some path) (.ofName next) := by
  have place : pathFor false path (.ofName next) (sectionTable last items (next :: more)) =
      some path := by
    obtain ⟨head, entries, table⟩ : ∃ head entries,
        sectionTable last items (next :: more) = .table head entries := ⟨_, _, rfl⟩
    simp [table, pathFor, Slot.ofName]
  rw [entriesText, entriesText, List.append_nil, place]

/-- The tables on the way to a section show no headers. -/
theorem text_sectionTable {last : String} {way : List String} (apart : last ∉ way)
    (path : Option (List Char)) (items : Body) {first : String} {rest : List String}
    (same : first :: rest = way ++ [last]) :
    (sectionTable last items (first :: rest)).text path (.ofName first) =
      '[' :: below path (pathText ((first :: rest).map Key.ofName)) ++ [']', '\n'] ++
        entriesText false (below path (pathText ((first :: rest).map Key.ofName))) items := by
  induction way generalizing path first rest with
  | nil =>
    cases same
    have written : pathText ([last].map Key.ofName) = writtenKey last.toList := by
      simp [pathText, Key.ofName]
    rw [written, sectionTable, Item.text]
    simp only [Option.getD_none, Slot.ofName, Key.ofName, tableHeader_last]
  | cons level way ih =>
    rw [List.mem_cons, not_or] at apart
    rw [List.cons_append] at same
    obtain ⟨rfl, rfl⟩ := List.cons.inj same
    obtain ⟨next, more, shape⟩ : ∃ next more, way ++ [last] = next :: more := by
      cases way with
      | nil => exact ⟨last, [], rfl⟩
      | cons next way => exact ⟨next, way ++ [last], rfl⟩
    have later := ih apart.2 (some (below path (writtenKey first.toList))) shape.symm
    have header := tableHeader_onWay (Ne.symm apart.1) (below path (writtenKey first.toList))
      (.ofName next) (rfl : (sectionTable last items (next :: more)).isTabular = true)
    rw [below_below] at later
    rw [shape, sectionTable, Item.text]
    change tableHeader _ false (below path (writtenKey first.toList)) _ ++
      entriesText false (below path (writtenKey first.toList)) _ = _
    rw [header, List.nil_append, entriesText_sectionTable, later]

/-- A table below the top of a document needs no line feed of its own. -/
theorem text_below_top (comment : List Char) (slot : Slot) (item : Item) :
    Body.text [] (topItems comment ++ [(some slot, item)]) =
      '#' :: (comment ++ '\n' :: '\n' :: item.text none slot) := by
  have top : Body.text [] (topItems comment ++ [(some slot, item)]) =
      Body.text ('#' :: (comment ++ ['\n']) ++ ['\n']) [(some slot, item)] := rfl
  have onNewLine : (('#' :: (comment ++ ['\n']) ++ ['\n']).reverse.dropWhile
      (· == ' ')).head? = some '\n' := by
    simp
  rw [top, Body.text, Body.text, onNewLine]
  simp

/-- A document of sections that moves below a path shows the same sections there. -/
theorem nestedText_document {place : List Char} {way : List String} {last : String}
    (path : sectionPath place = way ++ [last]) (apart : last ∉ way) {comment : List Char}
    (plain : ∀ c ∈ comment, isControl c = false) {sections : List Section}
    (shallow : ∀ s ∈ sectionsLines [] sections, s.Shallow)
    (keys : ∀ s ∈ sections, (s.2.map Prod.fst).Nodup)
    (distinct : (sections.map Prod.fst).Nodup) :
    nestedText ('#' :: (comment ++ '\n' :: linesText (.gap :: sectionsLines [] sections))) place =
      .ok ('#' :: (comment ++ '\n' :: linesText (.gap :: .heading (way ++ [last]) ::
        sectionsLines (way ++ [last]) sections))) := by
  have read := ofText?_document plain shallow keys distinct
  obtain ⟨first, rest, shape⟩ : ∃ first rest, way ++ [last] = first :: rest := by
    cases way with
    | nil => exact ⟨last, [], rfl⟩
    | cons first way => exact ⟨first, way ++ [last], rfl⟩
  have ends : (first :: rest).getLastD first = last := by
    rw [← shape, List.getLastD_concat]
  have moved (room : Nat) := nested?_document comment distinct first rest room
  have text := text_sectionTable apart none (movedTables sections) shape.symm
  rw [ends] at moved
  rw [nestedText, path, shape]
  simp only [bind, Except.bind, read]
  rw [Nat.mul_succ, moved]
  simp only [pure, Except.pure, text_below_top, text, below,
    entriesText_movedTables (List.cons_ne_nil first rest)]
  simp [linesText, Statement.line]

end TypstMarkup.Toml
