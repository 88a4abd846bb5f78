import Mathlib
import TypstMarkup.Proofs.Toml.Moved

/-!
Whole documents moved under a section. The tables on the way to the section hold nothing but the
next one, and the comments and blanks above the first key come before them. So the document that
comes out says what the one that went in says, below the path.
-/
namespace TypstMarkup.Toml

/-- Contents below a path. -/
def under : List String → List (String × Content) → List (String × Content)
  | [], entries => entries
  | name :: rest, entries => [(name, .table (under rest entries))]

/-! ### The way to the section -/

section

variable {last : String} {target tree : Body}

/-- The tables on the way to a section and the section are whole. -/
theorem whole_sectionTable (whole : (Item.table { onWay := some false } tree).IsWhole)
    {names : List String} (ends : names.getLast? = some last) :
    (sectionTable last tree names).IsWhole := by
  induction names with
  | nil => cases ends
  | cons name rest ih =>
    cases rest with
    | nil =>
      have same : name = last := Option.some.inj ends
      rw [sectionTable, same, bne_self_eq_false]
      exact whole
    | cons next more =>
      have inner := ih (by rwa [List.getLast?_cons_cons] at ends)
      have single : [(some (Slot.ofName next), sectionTable last tree (next :: more))] =
          tableItems [(.ofName next, sectionTable last tree (next :: more))] := rfl
      have heads : ∀ entry ∈ [(Slot.ofName next, sectionTable last tree (next :: more))],
          entry.1.Heads := List.forall_mem_singleton.2 (heads_ofName next)
      have distinct : (slotNames (tableItems
          [(.ofName next, sectionTable last tree (next :: more))])).Nodup :=
        List.pairwise_singleton _ _
      rw [sectionTable, single]
      cases own : name != last with
      | false =>
        have none : ∀ entry ∈ ([] : Body), IsPlain entry := List.forall_mem_nil _
        exact .headed rfl rfl (show IsGap [] from List.forall_mem_nil _) Margin.isWritten_default
          none heads (List.forall_mem_singleton.2 inner) distinct
      | true =>
        exact .implied rfl rfl (show IsGap [] from List.forall_mem_nil _)
          (List.cons_ne_nil _ _) heads (List.forall_mem_singleton.2 inner) distinct

theorem content?_sectionTable (last : String) (tree : Body) (name : String) (rest : List String) :
    (sectionTable last tree (name :: rest)).content? =
      some (.table (under rest (contents tree))) := by
  induction rest generalizing name with
  | nil => rw [sectionTable, Item.content?, under]
  | cons next rest ih =>
    rw [sectionTable, Item.content?, contents, contents, ih next]
    rfl

/-- The last header on the way to a section shows the whole path. -/
theorem exists_sectionLines (tree : Body) {name : String} {rest : List String}
    (ends : (name :: rest).getLast? = some last) (path : List Key) :
    ∃ front, (∀ line ∈ front, Closes line.ending) ∧
      itemLines path (.ofName name) (sectionTable last tree (name :: rest)) =
        front ++ .header {
          path := path ++ (name :: rest).map .ofName
          inArray := false
          margin := {}
        } :: bodyLines (path ++ (name :: rest).map .ofName) tree := by
  induction rest generalizing name path with
  | nil =>
    have same : name = last := Option.some.inj ends
    refine ⟨[], List.forall_mem_nil _, ?_⟩
    rw [sectionTable, itemLines, headerLines, same, bne_self_eq_false, if_neg (by simp)]
    rfl
  | cons next rest ih =>
    obtain ⟨front, closes, lines⟩ := ih (by rwa [List.getLast?_cons_cons] at ends)
      (path ++ [.ofName name])
    rw [List.append_assoc] at lines
    refine ⟨headerLines (path ++ [.ofName name]) { onWay := some (name != last) } ++ front,
      List.forall_mem_append.2 ⟨?_, closes⟩, ?_⟩
    · rw [headerLines]
      split
      · exact List.forall_mem_nil _
      · exact List.forall_mem_singleton.2 rfl
    · rw [sectionTable, itemLines, bodyLines, bodyLines, List.append_nil, List.append_assoc]
      exact congrArg _ lines

/-- What moved into a section shows below the tables on the way to it. -/
theorem text_sectionTable_laid (laid : Laid target tree) {name : String} {rest : List String}
    (ends : (name :: rest).getLast? = some last) (path : List Key) :
    (sectionTable last target (name :: rest)).text (pathText? path) (.ofName name) =
      (itemLines path (.ofName name) (sectionTable last tree (name :: rest))).flatMap
        Line.text := by
  have below (key : Key) : pathText? (path ++ [key]) = some (pathText (path ++ [key])) := by
    simp [pathText?]
  have header (path : List Key) : '[' :: pathText path ++ [']', '\n'] =
      (Line.header { path, inArray := false, margin := {} }).text := by
    simp [Line.text, headerLine]
  have single (name : String) : (Slot.ofName name).dotted = false := rfl
  induction rest generalizing name path with
  | nil =>
    have same : name = last := Option.some.inj ends
    rw [sectionTable, sectionTable, Item.text, Option.getD_none, below_pathText?, single, same,
      tableHeader_last, laid.text (by simp), itemLines, headerLines, bne_self_eq_false,
      if_neg (by simp), header]
    rfl
  | cons next rest ih =>
    have inner := @ih next (by rwa [List.getLast?_cons_cons] at ends)
      (path ++ [.ofName name]) (fun key => by simp [pathText?])
    rw [below] at inner
    rw [sectionTable, sectionTable, Item.text, Option.getD_none, below_pathText?, single,
      entriesText_sectionTable, Slot.ofName, inner, itemLines, bodyLines, bodyLines,
      List.append_nil, List.flatMap_append]
    refine congrArg (· ++ _) ?_
    by_cases same : name = last
    · rw [same, tableHeader_last, headerLines, bne_self_eq_false, if_neg (by simp), header]
      simp
    · have onWay : (name != last) = true := bne_iff_ne.2 same
      rw [tableHeader_onWay same _ _ rfl, headerLines, onWay, if_pos rfl]
      rfl

end

/-! ### What stands above the section -/

/-- Whether a line holds no key. -/
def Line.IsKeyless (line : Line) : Prop :=
  ∃ text, line = .blank text ∨ line = .comment text

theorem isKeyless_bodyLines {body : Body} (keyless : ∀ entry ∈ body, entry.1 = none)
    (path : List Key) : ∀ line ∈ bodyLines path body, line.IsKeyless := by
  induction body with
  | nil =>
    rw [bodyLines]
    exact List.forall_mem_nil _
  | cons entry body ih =>
    rw [List.forall_mem_cons] at keyless
    obtain ⟨slot, item⟩ := entry
    obtain rfl : slot = none := keyless.1
    cases item with
    | blank text =>
      rw [bodyLines]
      refine List.forall_mem_append.2 ⟨List.forall_mem_map.2 fun line _ => ⟨line, .inl rfl⟩, ?_⟩
      exact ih keyless.2
    | comment text =>
      rw [bodyLines]
      exact List.forall_mem_cons.2 ⟨⟨text, .inr rfl⟩, ih keyless.2⟩
    | _ =>
      rw [bodyLines]
      · exact ih keyless.2
      · intro _ same
        cases same
      · intro _ same
        cases same

/-- Lines without keys are those of items without keys. -/
theorem exists_keyless {ls : List Line} (written : ∀ line ∈ ls, line.IsWritten)
    (keyless : ∀ line ∈ ls, line.IsKeyless) : ∃ content : Body,
      (∀ entry ∈ content, IsPlain entry) ∧ slotNames content = [] ∧ contents content = [] ∧
        bodyLines [] content = ls := by
  induction ls with
  | nil => exact ⟨[], List.forall_mem_nil _, rfl, by rw [contents], by rw [bodyLines]⟩
  | cons line ls ih =>
    rw [List.forall_mem_cons] at written keyless
    obtain ⟨content, plain, names, none, lines⟩ := ih written.2 keyless.2
    obtain ⟨text, rfl | rfl⟩ := keyless.1
    · have layout := written.1.layout
      refine ⟨(Option.none, .blank text) :: content,
        List.forall_mem_cons.2 ⟨.blank layout.1, plain⟩, names, ?_, ?_⟩
      · rw [contents, none]
      · rw [bodyLines, layout.2, lines]
        rfl
    · refine ⟨(Option.none, .comment text) :: content,
        List.forall_mem_cons.2 ⟨.comment written.1, plain⟩, names, ?_, ?_⟩
      · rw [contents, none]
      · rw [bodyLines, lines]

/-- A line feed completes a line without one. -/
theorem exists_fed {line : Line} (written : line.IsWritten) (keyless : line.IsKeyless)
    (opened : ¬Closes line.ending) : ∃ fed : Line, fed.IsWritten ∧ fed.IsKeyless ∧
      Closes fed.ending ∧ fed.text = line.text ++ ['\n'] := by
  cases written with
  | @blank gap feed blank feeds filled =>
    rcases feeds with rfl | rfl
    · refine ⟨.blank (gap ++ ['\n']), .blank blank (.inr rfl) (by simp), ⟨_, .inl rfl⟩, ?_, ?_⟩
      · exact List.getLast?_concat
      · simp [Line.text]
    · exact absurd List.getLast?_concat opened
  | @comment gap comment feed blank isComment feeds =>
    rcases feeds with rfl | rfl | rfl
    · refine ⟨.comment (gap ++ comment ++ ['\n']), .comment blank isComment (.inr (.inl rfl)),
        ⟨_, .inr rfl⟩, ?_, ?_⟩
      · exact List.getLast?_concat
      · simp [Line.text]
    · exact absurd List.getLast?_concat opened
    · exact absurd (by simp [Closes, Line.ending, List.getLast?_append]) opened
  | entry =>
    obtain ⟨text, same | same⟩ := keyless <;> cases same
  | header =>
    obtain ⟨text, same | same⟩ := keyless <;> cases same

theorem not_mem_of_opened {line : Line} (written : line.IsWritten) (keyless : line.IsKeyless)
    (opened : ¬Closes line.ending) : '\n' ∉ line.text := by
  have noGap {gap : List Char} (blank : IsGap gap) : '\n' ∉ gap := by
    intro listed
    cases blank '\n' listed
  cases written with
  | @blank gap feed blank feeds filled =>
    rcases feeds with rfl | rfl
    · simpa [Line.text] using noGap blank
    · exact absurd List.getLast?_concat opened
  | @comment gap comment feed blank isComment feeds =>
    rcases feeds with rfl | rfl | rfl
    · cases isComment with
      | @intro text plain =>
        have noText : '\n' ∉ text := fun listed => (plain _ listed).1 rfl
        simp [Line.text, noGap blank, noText]
    · exact absurd List.getLast?_concat opened
    · exact absurd (by simp [Closes, Line.ending, List.getLast?_append]) opened
  | entry =>
    obtain ⟨text, same | same⟩ := keyless <;> cases same
  | header =>
    obtain ⟨text, same | same⟩ := keyless <;> cases same

/-- Whether what comes behind a text, apart from blanks at its end, starts a line. -/
def StartsLine (text : List Char) : Prop :=
  ∀ c ∈ (text.reverse.dropWhile (· == ' ')).head?, c = '\n'

/-- Blanks at the end of what stands above belong to the line of the next header. -/
theorem isGap_of_startsLine {before text : List Char} (starts : StartsLine (before ++ text))
    (noFeed : '\n' ∉ text) : IsGap text := by
  intro c listed
  rw [StartsLine, List.reverse_append, List.dropWhile_append] at starts
  cases rest : text.reverse.dropWhile (· == ' ') with
  | nil =>
    have space := List.dropWhile_eq_nil_iff.1 rest c (List.mem_reverse.2 listed)
    rw [beq_iff_eq.1 space]
    rfl
  | cons d more =>
    rw [rest] at starts
    have same : d = '\n' := starts d rfl
    have member : d ∈ text.reverse.dropWhile (· == ' ') := by
      rw [rest]
      exact List.mem_cons_self
    rw [same] at member
    exact absurd (List.mem_reverse.1 ((List.dropWhile_sublist _).subset member)) noFeed

/-- What stands above the section ends its lines, up to the indent of the next header. -/
theorem exists_preamble {ls : List Line} (written : ∀ line ∈ ls, line.IsWritten)
    (keyless : ∀ line ∈ ls, line.IsKeyless) (closed : IsClosed ls) {feed : List Char}
    (feeds : feed = ['\n'] ∨ feed = [] ∧ StartsLine (ls.flatMap Line.text)) :
    ∃ (above : List Line) (indent : List Char),
      (∀ line ∈ above, line.IsWritten ∧ line.IsKeyless ∧ Closes line.ending) ∧ IsGap indent ∧
        ls.flatMap Line.text ++ feed = above.flatMap Line.text ++ indent := by
  have known (all : ∀ line ∈ ls, Closes line.ending) :
      ∀ line ∈ ls, line.IsWritten ∧ line.IsKeyless ∧ Closes line.ending :=
    fun line listed => ⟨written line listed, keyless line listed, all line listed⟩
  by_cases all : ∀ line ∈ ls, Closes line.ending
  · rcases feeds with rfl | ⟨rfl, -⟩
    · refine ⟨ls ++ [.blank ['\n']], [], List.forall_mem_append.2 ⟨known all, ?_⟩,
        List.forall_mem_nil _, ?_⟩
      · exact List.forall_mem_singleton.2
          ⟨.feed, ⟨_, .inl rfl⟩, rfl⟩
      · rw [List.flatMap_append, List.append_nil]
        rfl
    · exact ⟨ls, [], known all, List.forall_mem_nil _, rfl⟩
  · rcases List.eq_nil_or_concat' ls with rfl | ⟨front, line, rfl⟩
    · exact absurd (List.forall_mem_nil _) all
    · have closes := closed.left (List.cons_ne_nil line [])
      have opened : ¬Closes line.ending := fun last =>
        all (List.forall_mem_append.2 ⟨closes, List.forall_mem_singleton.2 last⟩)
      rw [List.forall_mem_append, List.forall_mem_singleton] at written keyless
      have above : ∀ line ∈ front, line.IsWritten ∧ line.IsKeyless ∧ Closes line.ending :=
        fun line listed => ⟨written.1 line listed, keyless.1 line listed, closes line listed⟩
      rcases feeds with rfl | ⟨rfl, starts⟩
      · obtain ⟨fed, fedWritten, fedKeyless, fedCloses, text⟩ :=
          exists_fed written.2 keyless.2 opened
        refine ⟨front ++ [fed], [], List.forall_mem_append.2
          ⟨above, List.forall_mem_singleton.2 ⟨fedWritten, fedKeyless, fedCloses⟩⟩,
          List.forall_mem_nil _, ?_⟩
        simp [text]
      · rw [List.flatMap_append, List.flatMap_singleton] at starts
        refine ⟨front, line.text, above, isGap_of_startsLine starts
          (not_mem_of_opened written.2 keyless.2 opened), ?_⟩
        simp

theorem text_keyless {top : Body} (plain : ∀ entry ∈ top, IsPlain entry)
    (keyless : ∀ entry ∈ top, entry.1 = none) (before : List Char) (rest : Body) :
    Body.text before (top ++ rest) =
      Body.text (before ++ (bodyLines [] top).flatMap Line.text) rest := by
  have blanks (text : List Char) : (cutLines text).flatMap (fun line => Line.text (.blank line)) =
      text := by
    refine Eq.trans ?_ (flatten_cutLines text)
    rw [List.flatMap]
    exact congrArg List.flatten (List.map_id _)
  induction top generalizing before with
  | nil => simp [bodyLines]
  | cons entry top ih =>
    rw [List.forall_mem_cons] at plain keyless
    obtain ⟨slot, item⟩ := entry
    obtain rfl : slot = none := keyless.1
    cases plain.1 with
    | @blank text layout =>
      rw [List.cons_append, Body.text, ih plain.2 keyless.2, bodyLines, List.flatMap_append,
        List.flatMap_map, blanks, Item.plainText, List.append_assoc]
    | @comment text written =>
      rw [List.cons_append, Body.text, ih plain.2 keyless.2, bodyLines, List.flatMap_cons,
        Item.plainText, List.append_assoc]
      rfl

/-- A table comes on a line of its own below what stands above it. -/
theorem text_placeTable {top : Body} (plain : ∀ entry ∈ top, IsPlain entry)
    (keyless : ∀ entry ∈ top, entry.1 = none) (name : String) {head : Head}
    (close : head.margin.indent = []) (entries : Body) :
    ∃ feed, (feed = ['\n'] ∨ feed = [] ∧ StartsLine ((bodyLines [] top).flatMap Line.text)) ∧
      Body.text [] (top.placeTable name (.table head entries)) =
        (bodyLines [] top).flatMap Line.text ++ feed ++
          (Item.table head entries).text none (.ofName name) := by
  generalize above : (bodyLines [] top).flatMap Line.text = before
  have near : ∃ feed, (feed = ['\n'] ∨ feed = [] ∧ StartsLine before) ∧
      Body.text before [(some (.ofName name), .table head entries)] =
        before ++ feed ++ (Item.table head entries).text none (.ofName name) := by
    rw [Body.text, Body.text]
    split
    · exact ⟨['\n'], .inl rfl, rfl⟩
    · rename_i fits
      refine ⟨[], .inr ⟨rfl, fun c first => ?_⟩, by rw [List.append_nil]⟩
      have noFeed : (Item.table head entries).margin.indent.contains '\n' = false := by
        rw [Item.margin, close]
        rfl
      rw [noFeed, Item.isTabular] at fits
      simp only [Bool.true_and, Bool.not_false, Bool.and_true, Bool.not_eq_true', Bool.not_eq_false,
        Bool.or_eq_true, beq_iff_eq, List.isEmpty_iff] at fits
      rcases fits with none | feed
      · rw [none] at first
        cases first
      · rw [feed] at first
        exact (Option.some.inj first).symm
  rw [Body.placeTable, text_keyless plain keyless, List.nil_append, above]
  split
  · exact near
  · rw [Item.apart]
    split
    · exact near
    · refine ⟨['\n'], .inl rfl, ?_⟩
      rw [Body.text, Body.text]
      dsimp only
      rw [if_neg (by simp [Item.margin]), Item.text, Item.text, tableHeader_apart close]
      simp

/-! ### Documents below a path -/

/-- The items above the first key of a whole document. -/
def Body.top (body : Body) : Body :=
  body.takeWhile fun entry => entry.1.isNone

theorem keyless_top (body : Body) : ∀ entry ∈ body.top, entry.1 = none :=
  fun _ listed => Option.isNone_iff_eq_none.1
    (List.mem_takeWhile_imp (p := fun entry : Option Slot × Item => entry.1.isNone) listed)

theorem Body.IsWhole.plain_top {body : Body} (isWhole : body.IsWhole) :
    ∀ entry ∈ body.top, IsPlain entry := by
  intro entry listed
  have keyless := keyless_top body entry listed
  have member : entry ∈ body := (List.takeWhile_sublist _).subset listed
  cases isWhole with
  | intro plain =>
    rcases List.mem_append.1 member with early | late
    · exact plain entry early
    · obtain ⟨table, -, rfl⟩ := List.mem_map.1 late
      cases keyless

theorem Body.IsWhole.closed_top {body : Body} (isWhole : body.IsWhole) :
    IsClosed (bodyLines [] body.top) := by
  have closed : IsClosed (bodyLines [] body) := by
    cases isWhole with
    | intro _ _ _ _ closed => exact closed
  have split : body = body.top ++ body.dropWhile fun entry => entry.1.isNone :=
    List.takeWhile_append_dropWhile.symm
  rw [split, bodyLines_append] at closed
  exact closed.front

/-- What moves below the tables on the way to a section is read as such, below lines without
keys. -/
theorem ofText?_below {above : List Line} {indent : List Char} {tree : Body}
    (lines : ∀ line ∈ above, line.IsWritten ∧ line.IsKeyless ∧ Closes line.ending)
    (gap : IsGap indent) (whole : (Item.table { onWay := some false } tree).IsWhole)
    (closed : IsClosed (bodyLines [] tree)) {name last : String} {rest : List String}
    (ends : (name :: rest).getLast? = some last) :
    ∃ moved, Body.ofText? (above.flatMap Line.text ++ indent ++
        (itemLines [] (.ofName name) (sectionTable last tree (name :: rest))).flatMap Line.text) =
          .ok moved ∧ contents moved = under (name :: rest) (contents tree) := by
  obtain ⟨content, plain, names, none, laid⟩ := exists_keyless
    (fun line listed => (lines line listed).1) fun line listed => (lines line listed).2.1
  obtain ⟨table, wholeTable, same, shown⟩ := exists_indented (whole_sectionTable whole ends) gap
  obtain ⟨text, endings⟩ := shown [] (.ofName name)
  have all : bodyLines [] (content ++ tableItems [(.ofName name, table)]) =
      above ++ itemLines [] (.ofName name) table := by
    rw [bodyLines_append, laid, bodyLines_tables, List.flatMap_singleton]
  obtain ⟨front, closes, way⟩ := exists_sectionLines tree ends []
  have closedAll : IsClosed (above ++ itemLines [] (.ofName name) table) := by
    refine .append (fun line listed => (lines line listed).2.2) (IsClosed.congr ?_ endings)
    rw [way, ← List.singleton_append]
    exact .append closes (.append (List.forall_mem_singleton.2 rfl)
      (closed.congr (ending_bodyLines _ _ _)))
  have document : (content ++ tableItems [(.ofName name, table)]).IsWhole := by
    refine .intro plain (List.forall_mem_singleton.2 (heads_ofName name))
      (List.forall_mem_singleton.2 wholeTable) ?_ (by rwa [all])
    rw [slotNames_append, names]
    exact List.pairwise_singleton _ _
  obtain ⟨moved, read, -, kept⟩ := ofText?_whole document
  rw [all, List.flatMap_append, text, ← List.append_assoc] at read
  refine ⟨moved, read, kept.trans ?_⟩
  have single : contents (tableItems [(Slot.ofName name, table)]) =
      [(name, .table (under rest (contents tree)))] := by
    rw [tableItems, List.map_singleton, contents, contents, same, content?_sectionTable]
    rfl
  rw [contents_append, none, single]
  rfl

/-- The table of a section holds what moves, and stands behind what is above the first key. -/
theorem nestedText_of_moveInto? {source place : List Char} {body items : Body} {name : String}
    {rest : List String} (read : Body.ofText? source = .ok body)
    (path : sectionPath place = name :: rest)
    (moves : body.moveInto? body.names (4 * (source.length + 1)) [] = .ok items) :
    nestedText source place = .ok (Body.text [] (body.top.placeTable name
      (sectionTable ((name :: rest).getLastD name) items (name :: rest)))) := by
  rw [nestedText, path]
  simp only [bind, Except.bind, read]
  rw [nested?]
  simp only [bind, Except.bind, moves]
  rfl

/-- Moving a document of which every table stands in one place only adds the path: what comes out is
read as the contents of the document below the names of the section, and the comments and blanks
above the first key stay above the header of the section. -/
theorem nesting_only_adds_path {source place : List Char} {body : Body}
    (read : Body.ofText? source = .ok body) (isWhole : body.IsWhole)
    (named : sectionPath place ≠ []) :
    ∃ text moved, nestedText source place = .ok text ∧ Body.ofText? text = .ok moved ∧
      contents moved = under (sectionPath place) (contents body) ∧
        ∃ before after, text = Body.text [] body.top ++ before ++
          ('[' :: pathText ((sectionPath place).map .ofName) ++ [']', '\n']) ++ after := by
  obtain ⟨name, rest, path⟩ := List.exists_cons_of_ne_nil named
  obtain ⟨last, ends, same⟩ : ∃ last, (name :: rest).getLast? = some last ∧
      (name :: rest).getLastD name = last := by
    refine ⟨(name :: rest).getLastD name, ?_, rfl⟩
    rw [List.getLastD_eq_getLast?, List.getLast?_eq_some_getLast (List.cons_ne_nil _ _)]
    rfl
  obtain ⟨items, tree, moves, laid, kept, closed⟩ :=
    moveInto?_whole isWhole (4 * (source.length + 1) - 1)
  have room : 4 * (source.length + 1) - 1 + 1 = 4 * (source.length + 1) := by omega
  rw [room] at moves
  have plain := isWhole.plain_top
  have keyless := keyless_top body
  have nested := nestedText_of_moveInto? read path moves
  rw [same] at nested
  obtain ⟨head, entries, table, close⟩ : ∃ head entries,
      sectionTable last items (name :: rest) = .table head entries ∧ head.margin.indent = [] :=
    ⟨_, _, rfl, rfl⟩
  obtain ⟨feed, feeds, placed⟩ := text_placeTable plain keyless name close entries
  obtain ⟨above, indent, lines, gap, whole⟩ := exists_preamble
    (isWritten_plain plain []) (isKeyless_bodyLines keyless []) isWhole.closed_top feeds
  have text := text_sectionTable_laid laid ends []
  obtain ⟨moved, reads, below⟩ := ofText?_below lines gap laid.whole closed ends
  obtain ⟨front, -, way⟩ := exists_sectionLines tree ends []
  rw [← table] at placed
  have none : pathText? [] = Option.none := rfl
  rw [none] at text
  rw [text] at placed
  refine ⟨_, moved, nested, ?_, ?_, ?_⟩
  · rw [placed, whole]
    exact reads
  · rw [below, kept, path]
  · have top := text_keyless plain keyless [] []
    rw [List.append_nil, Body.text] at top
    rw [placed, top, way, path]
    refine ⟨feed ++ front.flatMap Line.text,
      (bodyLines ([] ++ (name :: rest).map .ofName) tree).flatMap Line.text, ?_⟩
    simp [Line.text, headerLine]

/-- A document with a comment, a value, and a table with a value, as it is read. -/
def remarkedBody : Body :=
  [(none, .comment "# demo\n".toList),
    (some (Slot.ofName "a").asRead, .value (.truth true) (truthText true) {})] ++
  tableItems [({ key := .ofName "b" }, .table { onWay := some false, shownPath := some ['b'] }
    ([(some (Slot.ofName "c").asRead, .value (.truth false) (truthText false) {})] ++
      tableItems []))]

theorem isWhole_remarkedBody : remarkedBody.IsWhole := by
  have demo : IsComment "# demo".toList := by
    refine @IsComment.intro [' ', 'd', 'e', 'm', 'o'] fun c listed => ?_
    simp only [List.mem_cons, List.not_mem_nil, or_false] at listed
    rcases listed with rfl | rfl | rfl | rfl | rfl <;> exact ⟨by decide, by decide, rfl⟩
  have comment : (Line.comment "# demo\n".toList).IsWritten :=
    @Line.IsWritten.comment [] "# demo".toList ['\n'] (List.forall_mem_nil _) demo (.inr (.inl rfl))
  have setting (name : String) (b : Bool) :
      IsPlain (some (Slot.ofName name).asRead, .value (.truth b) (truthText b) {}) := by
    refine .value rfl ?_
    rw [Slot.line, Slot.asRead_asRead]
    exact isWritten_line_ofName name (show IsSpace [] from List.forall_mem_nil _) (.truth b)
      Margin.isWritten_default
  have table : Item.IsWhole (.table { onWay := some false, shownPath := some ['b'] }
      ([(some (Slot.ofName "c").asRead, .value (.truth false) (truthText false) {})] ++
        tableItems [])) :=
    .headed rfl rfl (List.forall_mem_nil _) Margin.isWritten_default
      (List.forall_mem_singleton.2 (setting "c" false)) (List.forall_mem_nil _)
      (List.forall_mem_nil _) (by decide)
  refine .intro ?_ (List.forall_mem_singleton.2 (heads_ofName "b"))
    (List.forall_mem_singleton.2 table) (by decide) (isClosed_of_closes ?_)
  · exact List.forall_mem_cons.2 ⟨.comment comment, List.forall_mem_singleton.2 (setting "a" true)⟩
  · simp [bodyLines, itemLines, headerLines, tableItems, Slot.line, Line.ending, Closes,
      Item.margin]

theorem nesting_only_adds_path_remarked : ∃ text moved,
    Body.ofText? "# demo\na = true\n[b]\nc = false\n".toList = .ok remarkedBody ∧
      remarkedBody.IsWhole ∧ sectionPath "tool.x".toList ≠ [] ∧
      nestedText "# demo\na = true\n[b]\nc = false\n".toList "tool.x".toList = .ok text ∧
      Body.ofText? text = .ok moved ∧ contents moved = [("tool", .table [("x", .table
        [("a", .value (truthText true)), ("b", .table [("c", .value (truthText false))])])])] ∧
      ∃ before after, text = "# demo\n".toList ++ before ++ "[tool.x]\n".toList ++ after := by
  have read : Body.ofText? "# demo\na = true\n[b]\nc = false\n".toList = .ok remarkedBody := by
    cbv
  have path : sectionPath "tool.x".toList = ["tool", "x"] := by cbv
  have named : sectionPath "tool.x".toList ≠ [] := by
    rw [path]
    exact List.cons_ne_nil _ _
  obtain ⟨text, moved, nested, reads, kept, before, after, shown⟩ :=
    nesting_only_adds_path read isWhole_remarkedBody named
  have above : Body.text [] remarkedBody.top = "# demo\n".toList := by cbv
  have header : '[' :: pathText (["tool", "x"].map .ofName) ++ [']', '\n'] =
      "[tool.x]\n".toList := by cbv
  rw [path] at kept shown
  rw [above, header] at shown
  refine ⟨text, moved, read, isWhole_remarkedBody, named, nested, reads, ?_, before, after, shown⟩
  rw [kept]
  cbv

/-! ### Tables in several places -/

def headerOf (names : List String) : Line :=
  .header { path := names.map .ofName, inArray := false, margin := {} }

/-- Tables that stand in several places below the top of a document keep the paths they show, so
they leave the section. -/
theorem scattered_tables_leave_section :
    nestedText "[a.b.c]\nx = 1\n[a.b]\ny = 2\n".toList ['x'] =
        .ok "[x]\n[a.b.c]\nx = 1\n[a.b]\ny = 2\n".toList ∧
      ∃ body moved, Body.ofText? "[a.b.c]\nx = 1\n[a.b]\ny = 2\n".toList = .ok body ∧
        Body.ofText? "[x]\n[a.b.c]\nx = 1\n[a.b]\ny = 2\n".toList = .ok moved ∧
          (contents moved).map Prod.fst = ["x", "a"] ∧
            contents moved ≠ under ["x"] (contents body) := by
  have header {names : List String} (filled : names ≠ []) : (headerOf names).IsWritten :=
    .header (List.forall_mem_nil _) (by simpa using filled)
      (List.forall_mem_map.2 fun name _ => isWritten_ofName name) Margin.isWritten_default
  have setting (name : String) {digit : Char} (isDigit : digit.isDigit = true) :
      ((Slot.ofName name).line (.value .plain [digit] {})).IsWritten := by
    have tidy : IsTidy [digit] := ⟨List.cons_ne_nil _ _, List.forall_mem_singleton.2 isDigit,
      by simp [Based.mostDigits], by simp⟩
    exact isWritten_line_ofName name (show IsSpace [] from List.forall_mem_nil _)
      (.word (isWord_digits tidy)) Margin.isWritten_default
  have scattered : lines "[a.b.c]\nx = 1\n[a.b]\ny = 2\n".toList =
      [headerOf ["a", "b", "c"], (Slot.ofName "x").line (.value .plain ['1'] {}),
        headerOf ["a", "b"], (Slot.ofName "y").line (.value .plain ['2'] {})] := by
    have text : "[a.b.c]\nx = 1\n[a.b]\ny = 2\n".toList =
        [headerOf ["a", "b", "c"], (Slot.ofName "x").line (.value .plain ['1'] {}),
          headerOf ["a", "b"], (Slot.ofName "y").line (.value .plain ['2'] {})].flatMap
            Line.text := by
      cbv
    rw [text]
    refine lines_written ?_ ?_
    · simp only [List.forall_mem_cons]
      exact ⟨header (by decide), setting "x" rfl, header (by decide), setting "y" rfl,
        List.forall_mem_nil _⟩
    · simp [Closes, headerOf, Slot.line, Line.ending, Item.margin]
  have left : lines "[x]\n[a.b.c]\nx = 1\n[a.b]\ny = 2\n".toList =
      headerOf ["x"] :: lines "[a.b.c]\nx = 1\n[a.b]\ny = 2\n".toList :=
    lines_cons (by cbv) (by cbv)
  rw [scattered] at left
  have nested : nestedText "[a.b.c]\nx = 1\n[a.b]\ny = 2\n".toList ['x'] =
      .ok "[x]\n[a.b.c]\nx = 1\n[a.b]\ny = 2\n".toList := by
    rw [nestedText, Body.ofText?, scattered]
    cbv
  obtain ⟨body, read⟩ : ∃ body,
      Body.ofText? "[a.b.c]\nx = 1\n[a.b]\ny = 2\n".toList = .ok body := by
    rw [Body.ofText?, scattered]
    exact ⟨_, by cbv⟩
  obtain ⟨moved, reads, names⟩ : ∃ moved,
      Body.ofText? "[x]\n[a.b.c]\nx = 1\n[a.b]\ny = 2\n".toList = .ok moved ∧
        (contents moved).map Prod.fst = ["x", "a"] := by
    rw [Body.ofText?, left]
    exact ⟨_, by cbv, by cbv⟩
  refine ⟨nested, body, moved, read, reads, names, fun same => ?_⟩
  rw [same, under] at names
  cases names

end TypstMarkup.Toml
