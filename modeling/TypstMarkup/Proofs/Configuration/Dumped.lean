import TypstMarkup.Proofs.Configuration.Document
import TypstMarkup.Proofs.Workplace.Written

/-!
Dumped configurations. A file that a loaded configuration was dumped to loads back: over the
built-in defaults it gives the same settings, executable and font folders, by itself as well as in
the table of this tool in the shared file.
-/
namespace TypstMarkup.Configuration

open Markup (coreKeys)

variable {w w' : Workplace} {p start : Path} {explicit : List Path} {discovered : Bool}
  {c : Configuration} {shared withSources : Bool}

/-! ### Reading the tables of a document -/

theorem unifiedLines_of_notMem {text : List Char} (noReturn : '\r' ∉ text) :
    unifiedLines text = text := by
  fun_induction unifiedLines text with
  | case1 => rfl
  | case2 rest => exact absurd List.mem_cons_self noReturn
  | case3 rest => exact absurd List.mem_cons_self noReturn
  | case4 c rest _ _ ih => rw [ih fun later => noReturn (List.mem_cons_of_mem c later)]

/-- A configuration as the layer of a file. -/
def layer (c : Configuration) (p : Path) : Draft := { c.thaw with sources := [p.text] }

theorem tableAt?_sections {name : String} {entries : Toml.Table}
    (found : (Toml.tablesOf (sectionsOf c withSources)).get? name = some (.table entries)) :
    tableAt? (Toml.Node.toEntries (Toml.tablesOf (sectionsOf c withSources))) name =
      .ok (Toml.Node.toEntries entries) := by
  rw [tableAt?, entryAt?_toEntries, found]
  rfl

theorem toValues_texts (texts : List String) :
    Toml.Node.toValues (texts.map .text) = texts.map .str := by
  induction texts with
  | nil => rfl
  | cons text texts ih =>
    rw [List.map_cons, Toml.Node.toValues, ih, List.map_cons, Toml.Node.toValue]

theorem texts?_list (texts : List String) : texts? (.list (texts.map .str)) = some texts := by
  induction texts with
  | nil => rfl
  | cons text texts ih =>
    rw [texts?] at ih
    rw [texts?, List.map_cons, List.mapM_cons, ih]
    rfl

theorem executable?_compilerTable (source : String) (filled : c.executable ≠ some "") :
    executable? source (Toml.Node.toEntries c.compilerTable) = .ok c.executable := by
  have found : entryAt? (Toml.Node.toEntries c.compilerTable) "executable" =
      some (.str (c.executable.getD "")) := by
    rw [entryAt?_toEntries]
    rfl
  rw [executable?, found]
  cases given : c.executable with
  | none => rfl
  | some text =>
    have more : text.isEmpty = false := by
      rw [← Bool.not_eq_true, String.isEmpty_iff]
      rintro rfl
      exact filled given
    change Except.ok (if text.isEmpty = true then none else some text) = _
    rw [if_neg (by rw [more]; exact Bool.false_ne_true)]

theorem fontFolders?_compilerTable (source : String) (folder : Path)
    (absolute : ∀ text ∈ c.fontFolders, (Path.ofText text).isAbsolute = true)
    (same : ∀ text ∈ c.fontFolders, (w.resolve (.ofText text)).text = text) :
    fontFolders? w source folder (Toml.Node.toEntries c.compilerTable) =
      .ok (some c.fontFolders) := by
  have found : entryAt? (Toml.Node.toEntries c.compilerTable) "font_paths" =
      some (.list (c.fontFolders.map .str)) := by
    rw [entryAt?_toEntries, ← toValues_texts]
    rfl
  have kept : c.fontFolders.map (fun text => (w.resolve (folder.join (.ofText text))).text) =
      c.fontFolders := by
    refine (List.map_congr_left fun text listed => ?_).trans (List.map_id _)
    rw [Path.join, if_pos (absolute text listed), same text listed]
    rfl
  rw [fontFolders?, found]
  dsimp only
  rw [texts?_list]
  dsimp only
  rw [kept]

/-- The settings of a document are the settings that were dumped. -/
theorem settings?_settingsTable
    (accepted : ∀ {key v}, c.settings.get? key = some v → Accepted key v)
    (faithful : Faithful c shared withSources) (source : String) :
    settings? source (Toml.Node.toEntries c.settingsTable) = .ok c.settings := by
  refine bind_eq_ok_iff.2 ⟨c.settings.entries, ?_, congrArg Except.ok c.settings.ofList_entries⟩
  rw [toEntries_eq_map, settingsTable, List.map_map, List.mapM_map]
  refine (mapM_eq_ok_map (g := id) fun entry listed => ?_).trans (by rw [List.map_id])
  obtain ⟨-, node, -⟩ := node_of_mem accepted faithful listed
  exact bind_eq_ok_iff.2 ⟨entry.2, node.setting source, rfl⟩

/-! ### Loading -/

theorem isAbsolute_resolve (w : Workplace) (q : Path) : (w.resolve q).isAbsolute = true := by
  unfold Workplace.resolve Path.resolve
  split
  · rename_i absolute
    exact absolute
  · rfl

theorem isAbsolute_ofText {text : String} {rest : List Char} (starts : text.toList = '/' :: rest) :
    (Path.ofText text).isAbsolute = true := by
  have front : (text.toList.takeWhile (· == '/')).length ≠ 0 := by
    rw [starts, List.takeWhile_cons_of_pos rfl, List.length_cons]
    exact Nat.succ_ne_zero _
  rw [Path.isAbsolute, bne_iff_ne, Path.ofText]
  dsimp only
  split
  · decide
  · omega

theorem exists_cons_text {q : Path} (absolute : q.isAbsolute = true) :
    ∃ rest, q.text.toList = '/' :: rest := by
  rw [Path.isAbsolute, bne_iff_ne] at absolute
  obtain ⟨slashes, more⟩ := Nat.exists_eq_succ_of_ne_zero absolute
  rw [Path.text, if_neg (by simp [absolute]), more, List.replicate_succ, String.toList_append,
    String.toList_ofList]
  exact ⟨_, rfl⟩

theorem isAbsolute_of_fontFolders? {source : String} {folder : Path}
    {table : List (Value × Value)} {folders : List String}
    (read : fontFolders? w source folder table = .ok (some folders)) :
    ∀ text ∈ folders, (Path.ofText text).isAbsolute = true := by
  unfold fontFolders? at read
  split at read
  · cases read
  · cases read
  · split at read
    · cases read
      intro text listed
      obtain ⟨given, -, rfl⟩ := List.mem_map.1 listed
      obtain ⟨rest, starts⟩ := exists_cons_text (isAbsolute_resolve w (folder.join (.ofText given)))
      exact isAbsolute_ofText starts
    · cases read

/-- The font folders of a loaded configuration are absolute paths. -/
theorem isAbsolute_fontFolders (loaded : load? w start explicit discovered = .ok c) :
    ∀ text ∈ c.fontFolders, (Path.ofText text).isAbsolute = true := by
  obtain ⟨parts, contribute, rfl⟩ := load?_eq_ok_iff.1 loaded
  obtain ⟨d, listed, gives⟩ := lastOf_mem (fontFolders_freeze parts.reduceOption).symm
  rcases List.mem_cons.1 listed with rfl | listed
  · have none := Option.some.inj gives
    intro text among
    rw [← none] at among
    cases among
  · obtain ⟨p, -, contributes⟩ := exists_contributes contribute listed
    obtain ⟨table, -, ⟨inner, -, -, read⟩, -⟩ := contributes.exists_reads
    exact isAbsolute_of_fontFolders? (gives ▸ read)

theorem executable_load?_ne_empty (loaded : load? w start explicit discovered = .ok c) :
    c.executable ≠ some "" := by
  obtain ⟨parts, -, rfl⟩ := load?_eq_ok_iff.1 loaded
  intro empty
  obtain ⟨-, filled⟩ := Option.filter_eq_some_iff.1 empty
  cases filled

section

variable (loaded : load? w start explicit discovered = .ok c)

include loaded

/-- Over the defaults, a loaded configuration keeps all its settings. -/
theorem get?_freeze_layer (p : Path) (key : String) :
    (Draft.defaults.merge (c.layer p)).freeze.settings.get? key = c.settings.get? key := by
  have merged : (Draft.defaults.merge (c.layer p)).freeze.settings =
      Context.default.update c.settings := rfl
  rw [merged, OrderedMap.get?_update]
  by_cases core : key ∈ coreKeys
  · obtain ⟨v, present⟩ := exists_core_setting loaded core
    rw [present, Option.some_or]
  · rw [Markup.get?_default_of_notMem core, Option.or_none]

theorem executable_freeze_layer (p : Path) :
    (Draft.defaults.merge (c.layer p)).freeze.executable = c.executable := by
  have filled := executable_load?_ne_empty loaded
  have merged : (Draft.defaults.merge (c.layer p)).freeze.executable =
      (c.executable.or none).filter fun text => !text.isEmpty := rfl
  rw [merged, Option.or_none]
  cases given : c.executable with
  | none => rfl
  | some text =>
    have more : text ≠ "" := fun empty => filled (empty ▸ given)
    simpa using more

end

theorem valueAt?_rooted (path : List String) (entries : Toml.Table) :
    valueAt? (Toml.Node.toEntries ((Toml.rooted path entries).entries?.getD [])) path =
      some (.dict (Toml.Node.toEntries entries)) := by
  induction path with
  | nil => rfl
  | cons name path ih =>
    obtain ⟨inner, table⟩ : ∃ inner, Toml.rooted path entries = .table inner := by
      cases path <;> exact ⟨_, rfl⟩
    have found : entryAt? (Toml.Node.toEntries
        ((Toml.rooted (name :: path) entries).entries?.getD [])) name =
          some (.dict (Toml.Node.toEntries inner)) := by
      have single : (Toml.rooted (name :: path) entries).entries?.getD [] =
          [(name, .table inner)] := by
        rw [Toml.rooted, table]
        rfl
      rw [single, entryAt?_toEntries, Toml.Table.get?, List.find?_cons_of_pos (by simp)]
      rfl
    rw [table] at ih
    rw [valueAt?, found]
    exact ih

section

variable (loaded : load? w start explicit discovered = .ok c)
  (faithful : Faithful c shared withSources)
  (resolved : ∀ text ∈ c.fontFolders, (w'.resolve (.ofText text)).text = text)

include loaded faithful resolved

theorem reads_layer (p : Path) : Draft.Reads w' p
    (Toml.Node.toEntries (Toml.tablesOf (sectionsOf c withSources))) (c.layer p) :=
  { settings := ⟨_, tableAt?_sections rfl,
      settings?_settingsTable (accepted_of_load? loaded) faithful p.text⟩
    compiler := ⟨_, tableAt?_sections rfl,
      executable?_compilerTable p.text (executable_load?_ne_empty loaded),
      fontFolders?_compilerTable p.text p.parent (isAbsolute_fontFolders loaded) resolved⟩
    sources := rfl }

/-- A file with a dumped configuration contributes all of it. -/
theorem contributes_layer (named : p.name = sharedFile ↔ shared = true)
    (read : fileTable? w' p = .ok (Toml.Node.toEntries (dumpedTable c shared withSources))) :
    Contributes w' p (some (c.layer p)) := by
  have reads := reads_layer loaded faithful resolved p
  have found := valueAt?_rooted (place shared) (Toml.tablesOf (sectionsOf c withSources))
  cases shared with
  | false => exact .own (fun same => by cases named.1 same) read reads
  | true =>
    refine .shared (named.2 rfl) read found (fun empty => ?_) reads
    cases empty

end

/-- Where its texts and numbers read back one by one and its font folders resolve to themselves, a
loaded configuration can be dumped, and a file that it was dumped to loads back by itself, wherever
that file is. The shared file takes the form that stands in the table of this tool. -/
theorem dumped_configuration_loads_back (loaded : load? w start explicit discovered = .ok c)
    (faithful : Faithful c shared withSources)
    (resolved : ∀ text ∈ c.fontFolders, (w'.resolve (.ofText text)).text = text) :
    ∃ text, c.document? shared withSources = .ok text ∧
      ∀ p w'', (p.name = sharedFile ↔ shared = true) →
        w'.write? p (String.ofList text) = .ok w'' → ∀ start', ∃ c',
          load? w'' start' [p] false = .ok c' ∧
            (∀ key, c'.settings.get? key = c.settings.get? key) ∧
            c'.executable = c.executable ∧ c'.fontFolders = c.fontFolders := by
  have accepted {key : String} {v : Value} (present : c.settings.get? key = some v) :
      Accepted key v := accepted_of_load? loaded present
  refine ⟨_, document?_eq accepted faithful, fun p w'' named written start' => ?_⟩
  have still : ∀ text ∈ c.fontFolders, (w''.resolve (.ofText text)).text = text := by
    obtain ⟨-, rfl⟩ := Workplace.put_of_write? written
    exact resolved
  have read : fileTable? w'' p = .ok (Toml.Node.toEntries (dumpedTable c shared withSources)) := by
    rw [fileTable?, Workplace.read?_of_write? written]
    dsimp only
    rw [String.toList_ofList,
      unifiedLines_of_notMem (return_notMem_dumpedText accepted faithful),
      read?_dumpedText accepted faithful]
  refine ⟨(Draft.defaults.merge (c.layer p)).freeze, ?_, get?_freeze_layer loaded p,
    executable_freeze_layer loaded p, rfl⟩
  exact load?_eq_ok_iff.2 ⟨[some (c.layer p)],
    .cons (contributes_layer loaded faithful still named read) .nil, rfl⟩

/-- A folder with a setting and with fonts. -/
def desk : Workplace where
  files := { texts := [(["home", "typstry.toml"],
    "[settings]\nratio = 1.5\n\n[compiler]\nfont_paths = [\"fonts\"]\n")] }
  folder := ["home"]
  environment := .empty

theorem dumped_configuration_loads_back_desk : ∃ c text w'' c',
    load? desk ⟨0, []⟩ [⟨0, ["typstry.toml"]⟩] false = .ok c ∧ c.fontFolders = ["/home/fonts"] ∧
      Faithful c true true ∧ (∀ text ∈ c.fontFolders, (desk.resolve (.ofText text)).text = text) ∧
      c.document? true true = .ok text ∧
      (Path.name ⟨0, ["pyproject.toml"]⟩ = sharedFile ↔ true = true) ∧
      desk.write? ⟨0, ["pyproject.toml"]⟩ (String.ofList text) = .ok w'' ∧
      load? w'' ⟨0, []⟩ [⟨0, ["pyproject.toml"]⟩] false = .ok c' ∧
      (∀ key, c'.settings.get? key = c.settings.get? key) ∧ c'.executable = c.executable ∧
      c'.fontFolders = c.fontFolders := by
  obtain ⟨c, loaded, checked⟩ := exists_of_any (by decide +kernel :
    (load? desk ⟨0, []⟩ [⟨0, ["typstry.toml"]⟩] false).toOption.any (fun c =>
      c.fontFolders == ["/home/fonts"] && isFaithful c) = true)
  obtain ⟨folders, checked⟩ := Bool.and_eq_true_iff.1 checked
  have fonts := eq_of_beq folders
  have faithful := faithful_of_isFaithful checked true true
  have resolved : ∀ text ∈ c.fontFolders, (desk.resolve (.ofText text)).text = text := by
    rw [fonts, List.forall_mem_singleton]
    decide +kernel
  have named : Path.name ⟨0, ["pyproject.toml"]⟩ = sharedFile ↔ true = true := by decide
  have free : desk.find ⟨0, ["pyproject.toml"]⟩ = .absent := by decide +kernel
  have folder : desk.find (Path.parent ⟨0, ["pyproject.toml"]⟩) = .folder := by decide +kernel
  obtain ⟨text, dumped, back⟩ := dumped_configuration_loads_back loaded faithful resolved
  obtain ⟨w'', written⟩ : ∃ w'', desk.write? ⟨0, ["pyproject.toml"]⟩ (String.ofList text) =
      .ok w'' := by
    rw [Workplace.write?, free, folder]
    exact ⟨_, rfl⟩
  obtain ⟨c', again, same⟩ := back _ _ named written ⟨0, []⟩
  exact ⟨c, text, w'', c', loaded, fonts, faithful, resolved, dumped, named, written, again, same⟩

end TypstMarkup.Configuration
