import Mathlib.Data.List.Induction
import TypstMarkup.Proofs.Configuration.Layers
import TypstMarkup.Proofs.Workplace.Removed

/-!
Shared files that do not configure this tool. Such a file contributes nothing, but it is a candidate
as soon as it mentions the tool, and the search stops at the first folder with a candidate. So the
file can be removed without any effect, unless it is the only candidate found: then it hides what is
found above.
-/
namespace TypstMarkup

/-! ### Places without double points -/

theorem Path.notMem_descend {here : List String} (plain : ".." ∉ here) (parts : List String) :
    ".." ∉ Path.descend here parts := by
  induction parts generalizing here with
  | nil => exact plain
  | cons part rest ih =>
    rw [Path.descend, List.foldl_cons]
    split
    · exact ih fun member => plain ((List.dropLast_sublist here).subset member)
    · rename_i down
      refine ih fun member => ?_
      rcases List.mem_append.1 member with early | last
      · exact plain early
      · exact down (List.mem_singleton.1 last).symm

theorem Path.descend_of_notMem {parts : List String} (plain : ".." ∉ parts) (here : List String) :
    Path.descend here parts = here ++ parts := by
  induction parts generalizing here with
  | nil => exact (List.append_nil here).symm
  | cons part rest ih =>
    rw [List.mem_cons, not_or] at plain
    rw [Path.descend, List.foldl_cons, if_neg (Ne.symm plain.1)]
    exact (ih plain.2 _).trans (List.append_assoc here [part] rest)

namespace Configuration

variable {w : Workplace}

theorem resolve_in_folder {folder : List String} {name : String} (plain : ".." ∉ folder)
    (down : name ≠ "..") : (w.resolve ⟨1, folder ++ [name]⟩).parts = folder ++ [name] := by
  rw [Workplace.resolve_parts]
  refine Path.descend_of_notMem (fun member => ?_) []
  rcases List.mem_append.1 member with early | last
  · exact plain early
  · exact down (List.mem_singleton.1 last).symm

theorem notMem_resolve (plain : ".." ∉ w.folder) (p : Path) : ".." ∉ (w.resolve p).parts := by
  rw [Workplace.resolve_parts]
  refine Path.notMem_descend ?_ p.parts
  split
  · exact List.not_mem_nil
  · exact plain

/-! ### The candidates in a folder -/

/-- The shared file of a folder. -/
def sharedIn (folder : List String) : Path := ⟨1, folder ++ [sharedFile]⟩

/-- The file of this tool in a folder. -/
def ownIn (folder : List String) : Path := ⟨1, folder ++ [ownFile]⟩

/-- The candidates in the folders above a folder. -/
def filesAbove (w : Workplace) (folder : List String) : List Path :=
  match folder.reverse with
  | [] => []
  | _ :: above => nearestFiles w above

theorem filesIn_eq (w : Workplace) (folder : List String) :
    filesIn w folder = (match w.find (sharedIn folder) with
      | .file text => if Text.occursIn sharedWord.toList text.toList then [sharedIn folder] else []
      | _ => []) ++ if w.hasFile (ownIn folder) then [ownIn folder] else [] := rfl

theorem nearestFiles_eq (w : Workplace) (folder : List String) :
    nearestFiles w folder.reverse =
      if (filesIn w folder).isEmpty then filesAbove w folder else filesIn w folder := by
  unfold filesAbove
  cases reversed : folder.reverse with
  | nil =>
    rw [List.reverse_eq_nil_iff.1 reversed, nearestFiles]
    dsimp only
    split
    · rename_i none
      exact List.isEmpty_iff.1 none
    · rfl
  | cons part above =>
    have whole : (part :: above).reverse = folder := by rw [← reversed, List.reverse_reverse]
    rw [nearestFiles, whole]

theorem hasFile_of_mem_filesIn {folder : List String} {p : Path} (listed : p ∈ filesIn w folder) :
    w.hasFile p = true := by
  rw [filesIn_eq, List.mem_append] at listed
  rcases listed with shared | own
  · split at shared
    · rename_i text found
      split at shared
      · rw [List.mem_singleton.1 shared]
        exact Workplace.hasFile_iff.2 ⟨text, found⟩
      · cases shared
    · cases shared
  · split at own
    · rename_i present
      rwa [List.mem_singleton.1 own]
    · cases own

theorem hasFile_of_mem_nearestFiles {reversed : List String} {p : Path}
    (listed : p ∈ nearestFiles w reversed) : w.hasFile p = true := by
  obtain ⟨above, below, -, found, -⟩ := nearest_nearestFiles w reversed
  rw [found] at listed
  exact hasFile_of_mem_filesIn listed

/-! ### What is left where a shared file is removed -/

section

variable {folder : List String} {content : String}
  (held : w.find (sharedIn folder) = .file content) (plain : ".." ∉ folder)

include held plain

theorem textAt?_shared : w.files.textAt? (folder ++ [sharedFile]) = some content := by
  have found := Workplace.textAt?_of_find held
  rwa [sharedIn, resolve_in_folder plain (by decide)] at found

theorem hasFile_ownIn_without {other : List String} (plainOther : ".." ∉ other) :
    (w.without (folder ++ [sharedFile])).hasFile (ownIn other) = w.hasFile (ownIn other) := by
  refine Workplace.hasFile_without (textAt?_shared held plain) ?_
  rw [ownIn, resolve_in_folder plainOther (by decide)]
  intro same
  have last := (List.append_inj' same rfl).2
  revert last
  decide

theorem filesIn_without_self :
    filesIn (w.without (folder ++ [sharedFile])) folder =
      if w.hasFile (ownIn folder) then [ownIn folder] else [] := by
  rw [filesIn_eq, hasFile_ownIn_without held plain plain]
  split
  · rename_i found
    exact absurd found (Workplace.find_without_self (resolve_in_folder plain (by decide)) _)
  · rfl

theorem filesIn_with_self :
    filesIn w folder = sharedIn folder :: filesIn (w.without (folder ++ [sharedFile])) folder ∨
      filesIn w folder = filesIn (w.without (folder ++ [sharedFile])) folder := by
  rw [filesIn_without_self held plain, filesIn_eq, held]
  dsimp only
  split
  · exact .inl rfl
  · exact .inr rfl

theorem filesIn_without_of_ne {other : List String} (plainOther : ".." ∉ other)
    (differs : other ≠ folder) :
    filesIn (w.without (folder ++ [sharedFile])) other = filesIn w other := by
  have same (text : String) : (w.without (folder ++ [sharedFile])).find (sharedIn other) =
      .file text ↔ w.find (sharedIn other) = .file text := by
    refine Workplace.find_without (textAt?_shared held plain) ?_ text
    rw [sharedIn, resolve_in_folder plainOther (by decide)]
    exact fun equal => differs (List.append_inj' equal rfl).1
  rw [filesIn_eq, filesIn_eq, hasFile_ownIn_without held plain plainOther]
  congr 1
  split
  · rename_i text found
    rw [(same text).1 found]
  · rename_i absent
    split
    · rename_i text found
      exact absurd ((same text).2 found) (absent text)
    · rfl

theorem nearestFiles_without_of_shorter {reversed : List String} (plainOther : ".." ∉ reversed)
    (shorter : reversed.length < folder.length) :
    nearestFiles (w.without (folder ++ [sharedFile])) reversed = nearestFiles w reversed := by
  induction reversed with
  | nil =>
    refine filesIn_without_of_ne held plain plainOther ?_
    rintro rfl
    exact absurd shorter (Nat.lt_irrefl 0)
  | cons part above ih =>
    have plainAbove : ".." ∉ above := fun member => plainOther (List.mem_cons_of_mem part member)
    rw [List.length_cons] at shorter
    have here : filesIn (w.without (folder ++ [sharedFile])) (part :: above).reverse =
        filesIn w (part :: above).reverse := by
      refine filesIn_without_of_ne held plain (by rwa [List.mem_reverse]) ?_
      rintro rfl
      rw [List.length_reverse, List.length_cons] at shorter
      exact Nat.lt_irrefl _ shorter
    rw [nearestFiles, nearestFiles, here, ih plainAbove (by omega)]

theorem filesAbove_without :
    filesAbove (w.without (folder ++ [sharedFile])) folder = filesAbove w folder := by
  unfold filesAbove
  split
  · rfl
  · rename_i part above reversed
    have length := congrArg List.length reversed
    rw [List.length_reverse, List.length_cons] at length
    refine nearestFiles_without_of_shorter held plain (fun member => plain ?_) (by omega)
    rw [← List.mem_reverse, reversed]
    exact List.mem_cons_of_mem part member

/-- What the search finds without the file: the same as with it, or the same but for the file, or
what the file alone was hiding. -/
theorem nearestFiles_without {below : List String} (plainBelow : ".." ∉ folder ++ below) :
    let found := nearestFiles w (folder ++ below).reverse
    let left := nearestFiles (w.without (folder ++ [sharedFile])) (folder ++ below).reverse
    left = found ∨ (left ≠ [] ∧ found = sharedIn folder :: left) ∨
      (found = [sharedIn folder] ∧ left = filesAbove w folder) := by
  induction below using List.reverseRecOn with
  | nil =>
    rw [List.append_nil, nearestFiles_eq, nearestFiles_eq, filesAbove_without held plain]
    rcases filesIn_with_self held plain with more | same
    · rw [more]
      cases left : filesIn (w.without (folder ++ [sharedFile])) folder with
      | nil => exact .inr (.inr ⟨rfl, rfl⟩)
      | cons p files => exact .inr (.inl ⟨List.cons_ne_nil _ _, rfl⟩)
    · rw [same]
      exact .inl rfl
  | append_singleton below part ih =>
    have reversed : (folder ++ (below ++ [part])).reverse = part :: (folder ++ below).reverse := by
      rw [← List.append_assoc, List.reverse_append]
      rfl
    have inside : folder ++ below <+: folder ++ (below ++ [part]) := by
      rw [← List.append_assoc]
      exact List.prefix_append _ _
    have here : filesIn (w.without (folder ++ [sharedFile])) (folder ++ (below ++ [part])) =
        filesIn w (folder ++ (below ++ [part])) := by
      refine filesIn_without_of_ne held plain plainBelow fun same => ?_
      have length := congrArg List.length same
      rw [List.length_append, List.length_append, List.length_singleton] at length
      omega
    rw [reversed, nearestFiles, nearestFiles, ← reversed, List.reverse_reverse, here]
    split
    · exact ih fun member => plainBelow (inside.subset member)
    · exact .inl rfl

end

/-! ### What is loaded without the file -/

section

variable {gone : List String} {content : String} (held : w.files.textAt? gone = some content)

include held

theorem ofFile?_without {p : Path} (present : w.hasFile p = true)
    (other : (w.resolve p).parts ≠ gone) : ofFile? (w.without gone) p = ofFile? w p := by
  obtain ⟨text, found⟩ := Workplace.hasFile_iff.1 present
  have left := (Workplace.find_without held other text).2 found
  have read : fileTable? (w.without gone) p = fileTable? w p := by
    rw [fileTable?, fileTable?, Workplace.read?, Workplace.read?, found, left]
  rw [ofFile?, ofFile?, read]
  rfl

theorem contributes_without {p : Path} {part : Option Draft} (other : (w.resolve p).parts ≠ gone) :
    Contributes (w.without gone) p part ↔ Contributes w p part := by
  cases present : w.hasFile p with
  | true => rw [← ofFile?_eq_ok_iff, ofFile?_without held present other, ofFile?_eq_ok_iff]
  | false =>
    constructor
    · intro contributes
      rw [← Workplace.hasFile_without held other, contributes.hasFile] at present
      cases present
    · intro contributes
      rw [contributes.hasFile] at present
      cases present

theorem forall₂_contributes_without {files : List Path} {parts : List (Option Draft)}
    (others : ∀ p ∈ files, (w.resolve p).parts ≠ gone) :
    List.Forall₂ (Contributes (w.without gone)) files parts ↔
      List.Forall₂ (Contributes w) files parts := by
  induction files generalizing parts with
  | nil => rw [List.forall₂_nil_left_iff, List.forall₂_nil_left_iff]
  | cons p files ih =>
    have first (part : Option Draft) : Contributes (w.without gone) p part ↔ Contributes w p part :=
      contributes_without held (others p List.mem_cons_self)
    have later (rest : List (Option Draft)) :
        List.Forall₂ (Contributes (w.without gone)) files rest ↔
          List.Forall₂ (Contributes w) files rest :=
      ih fun q member => others q (List.mem_cons_of_mem p member)
    rw [List.forall₂_cons_left_iff, List.forall₂_cons_left_iff]
    simp only [first, later]

/-- Loading without the file merges what other files contribute with it. -/
theorem load?_without {start : Path} {explicit : List Path} {discovered : Bool}
    {c : Configuration} (unnamed : ∀ p ∈ explicit, (w.resolve p).parts ≠ gone) :
    load? (w.without gone) start explicit discovered = .ok c ↔
      ∃ parts, List.Forall₂ (Contributes w)
          ((if discovered then discover (w.without gone) start else []) ++ explicit) parts ∧
        c = (parts.reduceOption.foldl Draft.merge Draft.defaults).freeze := by
  rw [load?_eq_ok_iff]
  refine exists_congr fun parts => and_congr_left fun _ => ?_
  refine forall₂_contributes_without held fun p listed here => ?_
  rcases List.mem_append.1 listed with found | named
  · split at found
    · have present := hasFile_of_mem_nearestFiles found
      rw [Workplace.hasFile_without_self here] at present
      cases present
    · cases found
  · exact unnamed p named here

end

theorem contributes_unique {p : Path} {part part' : Option Draft} (first : Contributes w p part)
    (second : Contributes w p part') : part = part' := by
  have same := (ofFile?_eq_ok_iff.2 first).symm.trans (ofFile?_eq_ok_iff.2 second)
  exact Except.ok.inj same

theorem Contributes.sources_ne_nil {p : Path} {d : Draft} (contributes : Contributes w p (some d)) :
    d.sources ≠ [] := by
  cases contributes with
  | own _ _ reads | shared _ _ _ _ reads =>
    rw [reads.sources]
    exact List.cons_ne_nil _ _

/-- Files contribute nothing exactly if they add no sources. -/
theorem forall_contributes_none_iff {files : List Path} {parts : List (Option Draft)}
    (contribute : List.Forall₂ (Contributes w) files parts) :
    (∀ p ∈ files, Contributes w p none) ↔ parts.reduceOption.flatMap Draft.sources = [] := by
  induction contribute with
  | nil => exact ⟨fun _ => rfl, fun _ _ => nofun⟩
  | @cons p part files parts first more ih =>
    rw [List.forall_mem_cons, ih]
    cases part with
    | none => exact and_iff_right first
    | some d =>
      refine ⟨fun none => (nomatch contributes_unique first none.1), fun empty => ?_⟩
      rw [List.reduceOption_cons_of_some, List.flatMap_cons, List.append_eq_nil_iff] at empty
      exact absurd empty.1 first.sources_ne_nil

theorem forall₂_contributes_none {files : List Path} (silent : ∀ p ∈ files, Contributes w p none) :
    List.Forall₂ (Contributes w) files (List.replicate files.length none) := by
  induction files with
  | nil => exact .nil
  | cons p files ih =>
    rw [List.forall_mem_cons] at silent
    exact .cons silent.1 (ih silent.2)

/-- Candidates in front of other files change what is loaded, unless they contribute nothing. -/
theorem merged_append_iff {found explicit : List Path} {others : List (Option Draft)}
    (contribute : List.Forall₂ (Contributes w) explicit others) :
    (∃ parts, List.Forall₂ (Contributes w) (found ++ explicit) parts ∧
        (others.reduceOption.foldl Draft.merge Draft.defaults).freeze =
          (parts.reduceOption.foldl Draft.merge Draft.defaults).freeze) ↔
      ∀ p ∈ found, Contributes w p none := by
  constructor
  · rintro ⟨parts, all, same⟩
    have upper := List.forall₂_take found.length all
    have behind := List.forall₂_drop found.length all
    rw [List.take_left] at upper
    rw [List.drop_left] at behind
    have unique : Relator.RightUnique (Contributes w) := fun _ _ _ => contributes_unique
    have sources := congrArg Configuration.sources same
    rw [← List.take_append_drop found.length parts,
      List.right_unique_forall₂' unique behind contribute, List.reduceOption_append] at sources
    simp only [Draft.freeze, Draft.sources_foldl_merge, List.flatMap_cons, List.flatMap_append,
      List.append_cancel_left_eq, List.self_eq_append_left] at sources
    exact (forall_contributes_none_iff upper).2 sources
  · intro silent
    refine ⟨List.replicate found.length none ++ others,
      List.rel_append (forall₂_contributes_none silent) contribute, ?_⟩
    rw [List.reduceOption_append, List.reduceOption_replicate_none, List.nil_append]

theorem silent_of_bare {p : Path} {table : List (Value × Value)} {part : Option Draft}
    (named : p.name = sharedFile) (valid : fileTable? w p = .ok table)
    (bare : ∀ inner, valueAt? table sharedTable ≠ some (.dict inner))
    (contributes : Contributes w p part) : part = none := by
  cases contributes with
  | own other _ _ => exact absurd named other
  | shared _ read found _ _ =>
    rw [valid] at read
    cases read
    exact absurd found (bare _)
  | silent => rfl

theorem discover_eq {start : Path} (isFolder : w.hasFile (w.resolve start) = false) :
    discover w start = nearestFiles w (w.resolve start).parts.reverse := by
  rw [discover, if_neg (by rw [isFolder]; exact Bool.false_ne_true)]

theorem hasFile_resolve_without {gone : List String} {content : String} {p : Path}
    (held : w.files.textAt? gone = some content) (isFolder : w.hasFile p = false) :
    (w.without gone).hasFile p = false := by
  by_cases here : (w.resolve p).parts = gone
  · exact Workplace.hasFile_without_self here
  · exact (Workplace.hasFile_without held here).trans isFolder

/-- Removing a shared file that has no table of this tool does not change a configuration, unless
the file is the only candidate found and a file above it contributes something. -/
theorem removal_keeps_configuration_iff {start : Path} {explicit : List Path}
    {discovered : Bool} {c : Configuration} {folder : List String}
    {table : List (Value × Value)} (plain : ".." ∉ w.folder)
    (isFolder : w.hasFile (w.resolve start) = false) (inside : folder <+: (w.resolve start).parts)
    (valid : fileTable? w (sharedIn folder) = .ok table)
    (bare : ∀ inner, valueAt? table sharedTable ≠ some (.dict inner))
    (unnamed : ∀ p ∈ explicit, (w.resolve p).parts ≠ folder ++ [sharedFile])
    (loaded : load? w start explicit discovered = .ok c) :
    load? (w.without (folder ++ [sharedFile])) start explicit discovered = .ok c ↔
      (discovered = true → discover w start = [sharedIn folder] →
        ∀ p ∈ filesAbove w folder, Contributes w p none) := by
  obtain ⟨content, held⟩ := Workplace.hasFile_iff.1 (hasFile_of_fileTable? valid)
  have plainParts := notMem_resolve plain start
  have plainFolder : ".." ∉ folder := fun member => plainParts (inside.subset member)
  have gone := textAt?_shared held plainFolder
  obtain ⟨parts, contribute, rfl⟩ := load?_eq_ok_iff.1 loaded
  rw [load?_without gone unnamed]
  cases discovered with
  | false =>
    refine iff_of_true ⟨parts, contribute, rfl⟩ ?_
    rintro ⟨⟩
  | true =>
    rw [if_pos rfl, discover_eq (hasFile_resolve_without gone isFolder)]
    rw [if_pos rfl, discover_eq isFolder] at contribute
    rw [discover_eq isFolder]
    obtain ⟨below, whole⟩ := inside
    have resolved : ((w.without (folder ++ [sharedFile])).resolve start).parts =
      folder ++ below := whole.symm
    rw [resolved]
    rw [← whole] at contribute plainParts ⊢
    have named : (sharedIn folder).name = sharedFile := by
      simp [Path.name, sharedIn]
    rcases nearestFiles_without held plainFolder plainParts
      with same | ⟨more, found⟩ | ⟨found, left⟩
    · rw [same]
      refine iff_of_true ⟨parts, contribute, rfl⟩ fun _ alone => ?_
      have listed : sharedIn folder ∈
          nearestFiles (w.without (folder ++ [sharedFile])) (folder ++ below).reverse := by
        rw [same, alone]
        exact List.mem_cons_self
      have here : (w.resolve (sharedIn folder)).parts = folder ++ [sharedFile] :=
        resolve_in_folder plainFolder (by decide)
      have present := hasFile_of_mem_nearestFiles listed
      rw [Workplace.hasFile_without_self here] at present
      cases present
    · rw [found] at contribute ⊢
      refine iff_of_true ?_ fun _ alone => absurd (List.cons.inj alone).2 more
      obtain _ | ⟨first, rest⟩ := contribute
      rename_i part parts
      cases silent_of_bare named valid bare first
      exact ⟨parts, rest, rfl⟩
    · rw [found] at contribute ⊢
      rw [left]
      obtain _ | ⟨first, rest⟩ := contribute
      rename_i part parts
      cases silent_of_bare named valid bare first
      refine (merged_append_iff rest).trans ⟨fun silent _ _ => silent, fun silent => silent rfl rfl⟩

/-- A folder with settings, and one in it with a project file that mentions the tool in passing. -/
def nested : Workplace where
  files := { texts := [(["home", "typstry.toml"], "[settings]\ndepth = 1\n"),
    (["home", "sub", "pyproject.toml"], "[project]\nname = \"typstry-demo\"\n")] }
  folder := ["home", "sub"]
  environment := .empty

theorem nested_bare : ∃ table, fileTable? nested (sharedIn ["home", "sub"]) = .ok table ∧
    ∀ inner, valueAt? table sharedTable ≠ some (.dict inner) := by
  obtain ⟨table, read⟩ := exists_eq_ok
    (by decide +kernel : (fileTable? nested (sharedIn ["home", "sub"])).toBool = true)
  have bare : ((fileTable? nested (sharedIn ["home", "sub"])).toOption.bind fun table =>
      valueAt? table sharedTable).isNone = true := by decide +kernel
  refine ⟨table, read, fun inner found => ?_⟩
  rw [read, Except.toOption, Option.bind_some, found] at bare
  cases bare

theorem removal_keeps_configuration_iff_nested :
    ".." ∉ nested.folder ∧ nested.hasFile (nested.resolve ⟨0, []⟩) = false ∧
      ["home", "sub"] <+: (nested.resolve ⟨0, []⟩).parts ∧
      (∃ table, fileTable? nested (sharedIn ["home", "sub"]) = .ok table ∧
        ∀ inner, valueAt? table sharedTable ≠ some (.dict inner)) ∧
      ∃ c, load? nested ⟨0, []⟩ [] true = .ok c ∧
        (load? (nested.without (["home", "sub"] ++ [sharedFile])) ⟨0, []⟩ [] true = .ok c ↔
          (true = true → discover nested ⟨0, []⟩ = [sharedIn ["home", "sub"]] →
            ∀ p ∈ filesAbove nested ["home", "sub"], Contributes nested p none)) := by
  obtain ⟨table, read, bare⟩ := nested_bare
  obtain ⟨c, loaded⟩ := exists_eq_ok
    (by decide +kernel : (load? nested ⟨0, []⟩ [] true).toBool = true)
  have plain : ".." ∉ nested.folder := by decide
  have isFolder : nested.hasFile (nested.resolve ⟨0, []⟩) = false := by decide +kernel
  have inside : ["home", "sub"] <+: (nested.resolve ⟨0, []⟩).parts := by decide
  exact ⟨plain, isFolder, inside, ⟨table, read, bare⟩, c, loaded,
    removal_keeps_configuration_iff plain isFolder inside read bare nofun loaded⟩

/-- The word in the name of the project makes its file a candidate, so the search stops there and
the settings in the folder above are not found. Without the file, they are. -/
theorem mention_hides_settings_above :
    (∃ table, fileTable? nested (sharedIn ["home", "sub"]) = .ok table ∧
        ∀ inner, valueAt? table sharedTable ≠ some (.dict inner)) ∧
      ∃ c c', load? nested ⟨0, []⟩ [] true = .ok c ∧
        load? (nested.without ["home", "sub", "pyproject.toml"]) ⟨0, []⟩ [] true = .ok c' ∧
        c.settings.depth = .ok 0 ∧ c'.settings.depth = .ok 1 ∧ c ≠ c' := by
  obtain ⟨c, loaded⟩ := exists_eq_ok
    (by decide +kernel : (load? nested ⟨0, []⟩ [] true).toBool = true)
  obtain ⟨c', loaded'⟩ := exists_eq_ok (by decide +kernel :
    (load? (nested.without ["home", "sub", "pyproject.toml"]) ⟨0, []⟩ [] true).toBool = true)
  have depth : ((load? nested ⟨0, []⟩ [] true).toOption.bind fun c =>
      c.settings.depth.toOption) = some 0 := by decide +kernel
  have depth' : ((load? (nested.without ["home", "sub", "pyproject.toml"]) ⟨0, []⟩ []
      true).toOption.bind fun c => c.settings.depth.toOption) = some 1 := by decide +kernel
  have ok {x : Except Fault Nat} {n : Nat} (found : x.toOption = some n) : x = .ok n := by
    cases x <;> cases found
    rfl
  rw [loaded] at depth
  rw [loaded'] at depth'
  refine ⟨nested_bare, c, c', loaded, loaded', ok depth, ok depth', fun same => ?_⟩
  have zero := ok depth
  rw [same, ok depth'] at zero
  cases zero

end Configuration

end TypstMarkup
