import Mathlib.Data.List.Forall2
import Mathlib.Data.List.ReduceOption
import TypstMarkup.Configuration.Load
import TypstMarkup.Proofs.Markup.Alike
import TypstMarkup.Proofs.Success

/-!
Configurations as layers. Every file contributes a layer or nothing, and loading succeeds exactly if
every file does. Of the merged layers, the last one that holds a setting gives its value, and the
last one that sets the executable or the font folders decides about them.
-/
namespace TypstMarkup

namespace Draft

/-! ### Merged layers -/

variable (lower : Draft) (uppers : List Draft)

theorem settings_foldl_merge :
    (uppers.foldl merge lower).settings = (uppers.map settings).foldl .update lower.settings := by
  induction uppers generalizing lower with
  | nil => rfl
  | cons upper rest ih => exact ih (lower.merge upper)

theorem executable_foldl_merge :
    (uppers.foldl merge lower).executable = lastOf executable (lower :: uppers) := by
  induction uppers generalizing lower with
  | nil => exact (lastOf_singleton _).symm
  | cons upper rest ih =>
    rw [List.foldl_cons, ih, lastOf_cons, lastOf_cons, lastOf_cons, merge, Option.or_assoc]

theorem fontFolders_foldl_merge :
    (uppers.foldl merge lower).fontFolders = lastOf fontFolders (lower :: uppers) := by
  induction uppers generalizing lower with
  | nil => exact (lastOf_singleton _).symm
  | cons upper rest ih =>
    rw [List.foldl_cons, ih, lastOf_cons, lastOf_cons, lastOf_cons, merge, Option.or_assoc]

theorem sources_foldl_merge :
    (uppers.foldl merge lower).sources = (lower :: uppers).flatMap sources := by
  induction uppers generalizing lower with
  | nil => simp
  | cons upper rest ih => simp [ih, merge]

end Draft

/-! ### The layer of a file -/

open TypstMarkup.Configuration

/-- What a table says about the layer of the file it stands in. -/
structure Draft.Reads (w : Workplace) (p : Path) (table : List (Value × Value)) (d : Draft) :
    Prop where
  settings : ∃ inner, tableAt? table "settings" = .ok inner ∧
    settings? p.text inner = .ok d.settings
  compiler : ∃ inner, tableAt? table "compiler" = .ok inner ∧
    executable? p.text inner = .ok d.executable ∧
    fontFolders? w p.text p.parent inner = .ok d.fontFolders
  sources : d.sources = [p.text]

namespace Configuration

variable {w : Workplace} {p : Path}

theorem reads_of_ofTable? {table : List (Value × Value)} {d : Draft}
    (made : Draft.ofTable? w table (some p) = .ok d) :
    Draft.Reads w p table { d with sources := [p.text] } := by
  obtain ⟨inner, atSettings, made⟩ := bind_eq_ok_iff.1 made
  obtain ⟨settings, readSettings, made⟩ := bind_eq_ok_iff.1 made
  obtain ⟨compiler, atCompiler, made⟩ := bind_eq_ok_iff.1 made
  obtain ⟨executable, readExecutable, made⟩ := bind_eq_ok_iff.1 made
  obtain ⟨fontFolders, readFolders, made⟩ := bind_eq_ok_iff.1 made
  cases made
  exact ⟨⟨inner, atSettings, readSettings⟩, ⟨compiler, atCompiler, readExecutable, readFolders⟩,
    rfl⟩

theorem ofTable?_of_reads {table : List (Value × Value)} {d : Draft}
    (reads : d.Reads w p table) :
    Draft.ofTable? w table (some p) = .ok { d with sources := [] } := by
  obtain ⟨inner, atSettings, readSettings⟩ := reads.settings
  obtain ⟨compiler, atCompiler, readExecutable, readFolders⟩ := reads.compiler
  refine bind_eq_ok_iff.2 ⟨inner, atSettings, bind_eq_ok_iff.2 ⟨d.settings, readSettings, ?_⟩⟩
  refine bind_eq_ok_iff.2 ⟨compiler, atCompiler, ?_⟩
  refine bind_eq_ok_iff.2 ⟨d.executable, readExecutable, ?_⟩
  exact bind_eq_ok_iff.2 ⟨d.fontFolders, readFolders, rfl⟩

/-- What a file contributes: its layer, or nothing if it is the shared file and has no table of this
tool with anything in it. -/
inductive Contributes (w : Workplace) (p : Path) : Option Draft → Prop where
  | own {table : List (Value × Value)} {d : Draft} (other : p.name ≠ sharedFile)
      (read : fileTable? w p = .ok table) (reads : d.Reads w p table) : Contributes w p (some d)
  | shared {table inner : List (Value × Value)} {d : Draft} (named : p.name = sharedFile)
      (read : fileTable? w p = .ok table)
      (found : valueAt? table sharedTable = some (.dict inner)) (filled : inner ≠ [])
      (reads : d.Reads w p inner) : Contributes w p (some d)
  | silent {table : List (Value × Value)} (named : p.name = sharedFile)
      (read : fileTable? w p = .ok table)
      (nothing : ∀ v, valueAt? table sharedTable = some v → v.isTrue = false) :
      Contributes w p none

theorem contributes_of_ofFile? {part : Option Draft} (made : ofFile? w p = .ok part) :
    Contributes w p part := by
  obtain ⟨table, read, made⟩ := bind_eq_ok_iff.1 made
  extract_lets layer at made
  have layered {inner : List (Value × Value)} (made : layer inner = .ok part) :
      ∃ d, part = some d ∧ d.Reads w p inner := by
    obtain ⟨d, madeTable, same⟩ := bind_eq_ok_iff.1 made
    cases same
    exact ⟨_, rfl, reads_of_ofTable? madeTable⟩
  split at made
  · rename_i named
    split at made
    · rename_i absent
      cases made
      exact .silent named read fun v found => by rw [absent] at found; cases found
    · rename_i v found
      split at made
      · rename_i empty
        cases made
        refine .silent named read fun v' found' => ?_
        rw [found] at found'
        cases found'
        simpa using empty
      · rename_i isTrue
        split at made
        · rename_i inner
          obtain ⟨d, rfl, reads⟩ := layered made
          refine .shared named read found ?_ reads
          rintro rfl
          exact isTrue rfl
        · cases made
  · rename_i other
    obtain ⟨d, rfl, reads⟩ := layered made
    exact .own other read reads

theorem ofFile?_eq_ok_iff {part : Option Draft} :
    ofFile? w p = .ok part ↔ Contributes w p part := by
  refine ⟨contributes_of_ofFile?, fun contributes => ?_⟩
  have layered {inner : List (Value × Value)} {d : Draft} (reads : d.Reads w p inner) : (do
      let draft ← Draft.ofTable? w inner (some p)
      return some { draft with sources := [p.text] } : Except Fault (Option Draft)) =
        .ok (some d) := by
    rw [ofTable?_of_reads reads, ← reads.sources]
    rfl
  unfold ofFile?
  cases contributes with
  | own other read reads =>
    rw [read]
    refine bind_eq_ok_iff.2 ⟨_, rfl, ?_⟩
    rw [if_neg other]
    exact layered reads
  | shared named read found filled reads =>
    rw [read]
    refine bind_eq_ok_iff.2 ⟨_, rfl, ?_⟩
    have isTrue (inner : List (Value × Value)) (filled : inner ≠ []) :
        ¬ (!(Value.dict inner).isTrue) = true := by
      cases inner with
      | nil => exact absurd rfl filled
      | cons entry rest => exact Bool.false_ne_true
    rw [if_pos named, found]
    dsimp only
    rw [if_neg (isTrue _ filled)]
    exact layered reads
  | silent named read nothing =>
    rw [read]
    refine bind_eq_ok_iff.2 ⟨_, rfl, ?_⟩
    rw [if_pos named]
    split
    · rfl
    · rename_i v found
      rw [if_pos (by rw [nothing v found]; rfl)]
      rfl

theorem hasFile_of_fileTable? {table : List (Value × Value)} (read : fileTable? w p = .ok table) :
    w.hasFile p = true := by
  unfold fileTable? Workplace.read? at read
  unfold Workplace.hasFile
  split at read
  · cases read
  · rename_i found
    split at found
    · rename_i file
      rw [file]
    all_goals cases found

theorem Contributes.hasFile {part : Option Draft} (contributes : Contributes w p part) :
    w.hasFile p = true := by
  cases contributes with
  | own _ read _ | shared _ read _ _ _ | silent _ read _ => exact hasFile_of_fileTable? read

theorem addFile?_eq_ok_iff {lower d : Draft} :
    addFile? w lower p = .ok d ↔
      ∃ part, Contributes w p part ∧ d = part.toList.foldl Draft.merge lower := by
  unfold addFile?
  rw [bind_eq_ok_iff]
  refine exists_congr fun part => and_congr ofFile?_eq_ok_iff ?_
  have same (e : Draft) : (Except.ok e : Except Fault Draft) = .ok d ↔ d = e := by
    rw [Except.ok.injEq, eq_comm]
  cases part with
  | none => exact same lower
  | some upper => exact same (lower.merge upper)

theorem addExplicit?_eq_ok_iff {lower d : Draft} :
    addExplicit? w lower p = .ok d ↔ addFile? w lower p = .ok d := by
  unfold addExplicit?
  split
  · rfl
  · rename_i absent
    refine ⟨nofun, fun added => ?_⟩
    obtain ⟨part, contributes, -⟩ := addFile?_eq_ok_iff.1 added
    exact absurd contributes.hasFile absent

/-- Layers are put on top of a draft one after the other. -/
theorem foldlM_eq_ok_iff {add : Draft → Path → Except Fault Draft}
    (adds : ∀ lower p d, add lower p = .ok d ↔
      ∃ part, Contributes w p part ∧ d = part.toList.foldl Draft.merge lower)
    {files : List Path} {lower d : Draft} :
    files.foldlM add lower = .ok d ↔
      ∃ parts, List.Forall₂ (Contributes w) files parts ∧
        d = parts.reduceOption.foldl Draft.merge lower := by
  induction files generalizing lower with
  | nil =>
    constructor
    · intro done
      cases done
      exact ⟨[], .nil, rfl⟩
    · rintro ⟨parts, none, rfl⟩
      cases none
      rfl
  | cons p files ih =>
    rw [List.foldlM_cons, bind_eq_ok_iff]
    constructor
    · rintro ⟨next, added, later⟩
      obtain ⟨part, contributes, rfl⟩ := (adds lower p next).1 added
      obtain ⟨parts, more, rfl⟩ := ih.1 later
      refine ⟨part :: parts, .cons contributes more, ?_⟩
      cases part <;> rfl
    · rintro ⟨parts, all, rfl⟩
      obtain _ | ⟨contributes, more⟩ := all
      rename_i part parts
      refine ⟨_, (adds lower p _).2 ⟨part, contributes, rfl⟩, ih.2 ⟨parts, more, ?_⟩⟩
      cases part <;> rfl

/-- Loading succeeds exactly if every file contributes, and merges what the files contribute. -/
theorem load?_eq_ok_iff {start : Path} {explicit : List Path} {discovered : Bool}
    {c : Configuration} :
    load? w start explicit discovered = .ok c ↔
      ∃ parts, List.Forall₂ (Contributes w)
          ((if discovered then discover w start else []) ++ explicit) parts ∧
        c = (parts.reduceOption.foldl Draft.merge Draft.defaults).freeze := by
  have adds (lower : Draft) (p : Path) (d : Draft) := @addFile?_eq_ok_iff w p lower d
  have explicitly (lower d : Draft) :
      explicit.foldlM (addExplicit? w) lower = .ok d ↔
        explicit.foldlM (addFile? w) lower = .ok d := by
    rw [foldlM_eq_ok_iff adds, foldlM_eq_ok_iff fun lower p d =>
      addExplicit?_eq_ok_iff.trans (adds lower p d)]
  set found := if discovered then discover w start else []
  have all (d : Draft) : (found ++ explicit).foldlM (addFile? w) Draft.defaults = .ok d ↔
      ∃ draft, found.foldlM (addFile? w) Draft.defaults = .ok draft ∧
        explicit.foldlM (addExplicit? w) draft = .ok d := by
    rw [List.foldlM_append, bind_eq_ok_iff]
    exact exists_congr fun draft => and_congr_right fun _ => (explicitly draft d).symm
  unfold load?
  constructor
  · intro loaded
    obtain ⟨draft, first, loaded⟩ := bind_eq_ok_iff.1 loaded
    obtain ⟨whole, later, frozen⟩ := bind_eq_ok_iff.1 loaded
    cases frozen
    obtain ⟨parts, contribute, rfl⟩ :=
      (foldlM_eq_ok_iff adds).1 ((all whole).2 ⟨draft, first, later⟩)
    exact ⟨parts, contribute, rfl⟩
  · rintro ⟨parts, contribute, rfl⟩
    obtain ⟨draft, first, later⟩ := (all _).1 ((foldlM_eq_ok_iff adds).2 ⟨parts, contribute, rfl⟩)
    exact bind_eq_ok_iff.2 ⟨draft, first, bind_eq_ok_iff.2 ⟨_, later, rfl⟩⟩

theorem executable?_ne_empty {source : String} {compiler : List (Value × Value)}
    (read : executable? source compiler = .ok (some "")) : False := by
  unfold executable? at read
  split at read
  · cases read
  · cases read
  · split at read
    · rename_i text _
      have given : (if text.isEmpty then none else some text) = some "" := Except.ok.inj read
      split at given
      · cases given
      · rename_i filled
        cases given
        exact filled rfl
    · cases read

theorem Contributes.exists_reads {d : Draft} (contributes : Contributes w p (some d)) :
    ∃ table, d.Reads w p table := by
  cases contributes with
  | own _ _ reads | shared _ _ _ _ reads => exact ⟨_, reads⟩

theorem Contributes.executable_ne_empty {d : Draft} (contributes : Contributes w p (some d)) :
    d.executable ≠ some "" := by
  intro empty
  obtain ⟨table, -, ⟨inner, -, read, -⟩, -⟩ := contributes.exists_reads
  exact executable?_ne_empty (empty ▸ read)

theorem exists_contributes {files : List Path} {parts : List (Option Draft)} {d : Draft}
    (contribute : List.Forall₂ (Contributes w) files parts) (listed : d ∈ parts.reduceOption) :
    ∃ p ∈ files, Contributes w p (some d) := by
  rw [List.reduceOption_mem_iff] at listed
  induction contribute with
  | nil => cases listed
  | cons first _ ih =>
    rcases List.mem_cons.1 listed with rfl | later
    · exact ⟨_, List.mem_cons_self, first⟩
    · obtain ⟨p, member, contributes⟩ := ih later
      exact ⟨p, List.mem_cons_of_mem _ member, contributes⟩

theorem fontFolders_freeze (uppers : List Draft) :
    some (uppers.foldl Draft.merge Draft.defaults).freeze.fontFolders =
      lastOf Draft.fontFolders (Draft.defaults :: uppers) := by
  rw [Draft.freeze, Draft.fontFolders_foldl_merge, lastOf_cons]
  cases lastOf Draft.fontFolders uppers <;> rfl

/-- Freezing drops an empty executable, but no layer sets one. -/
theorem executable_freeze {files : List Path} {parts : List (Option Draft)}
    (contribute : List.Forall₂ (Contributes w) files parts) :
    (parts.reduceOption.foldl Draft.merge Draft.defaults).freeze.executable =
      lastOf Draft.executable (Draft.defaults :: parts.reduceOption) := by
  rw [Draft.freeze, Draft.executable_foldl_merge]
  cases found : lastOf Draft.executable (Draft.defaults :: parts.reduceOption) with
  | none => rfl
  | some text =>
    obtain ⟨d, listed, gives⟩ := lastOf_mem found
    rcases List.mem_cons.1 listed with rfl | listed
    · cases gives
    · obtain ⟨p, -, contributes⟩ := exists_contributes contribute listed
      have filled : text ≠ "" := fun empty => contributes.executable_ne_empty (empty ▸ gives)
      simpa using filled

/-! ### The nearest files -/

/-- The folder in which the search for configuration files starts. -/
def startFolder (w : Workplace) (start : Path) : List String :=
  let start := w.resolve start
  (if w.hasFile start then start.parent else start).parts

/-- The candidates of the nearest folder that has any, from a folder upwards. -/
def Nearest (w : Workplace) (folder : List String) (found : List Path) : Prop :=
  ∃ above below, folder = above ++ below ∧ found = filesIn w above ∧
    (∀ between, between ≠ [] → between <+: below → filesIn w (above ++ between) = []) ∧
    (found = [] → above = [])

theorem nearest_nearestFiles (w : Workplace) (reversed : List String) :
    Nearest w reversed.reverse (nearestFiles w reversed) := by
  induction reversed with
  | nil =>
    refine ⟨[], [], rfl, rfl, fun between more inside => ?_, fun _ => rfl⟩
    exact absurd (List.prefix_nil.1 inside) more
  | cons part reversed ih =>
    rw [nearestFiles]
    split
    · rename_i none
      obtain ⟨above, below, same, found, others, top⟩ := ih
      refine ⟨above, below ++ [part], ?_, found, fun between more inside => ?_, top⟩
      · rw [List.reverse_cons, same, List.append_assoc]
      · rcases List.prefix_concat_iff.1 inside with rfl | inside
        · rw [← List.append_assoc, ← same, ← List.reverse_cons]
          exact List.isEmpty_iff.1 none
        · exact others between more inside
    · rename_i some
      refine ⟨(part :: reversed).reverse, [], (List.append_nil _).symm, rfl, ?_, ?_⟩
      · exact fun between more inside => absurd (List.prefix_nil.1 inside) more
      · exact fun none => absurd (List.isEmpty_iff.2 none) some

theorem nearest_discover (w : Workplace) (start : Path) :
    Nearest w (startFolder w start) (discover w start) := by
  have nearest := nearest_nearestFiles w (startFolder w start).reverse
  rwa [List.reverse_reverse] at nearest

end Configuration

end TypstMarkup
