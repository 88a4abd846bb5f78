import TypstMarkup.Workplace.Files

/-!
Written files. A file that was written under a path is read under the same path, also where the path
goes up through double points.
-/
namespace TypstMarkup

namespace Files

variable {files : Files} {place : List String} {text : String}

theorem isFolder_dropLast (found : files.isFolder place) : files.isFolder place.dropLast := by
  have shorter : place.dropLast <+: place := List.dropLast_prefix place
  simp only [isFolder, Bool.or_eq_true, List.any_eq_true, Bool.and_eq_true, bne_iff_ne,
    List.isPrefixOf_iff_prefix, List.isEmpty_iff] at found ⊢
  rcases found with (empty | ⟨folder, listed, inside⟩) | ⟨entry, listed, inside, other⟩
  · left; left
    rw [empty]
    rfl
  · left; right
    exact ⟨folder, listed, shorter.trans inside⟩
  · by_cases top : place = []
    · left; left
      rw [top]
      rfl
    right
    refine ⟨entry, listed, shorter.trans inside, ?_⟩
    intro same
    rw [← same] at inside
    have less : place.length ≤ place.length - 1 := by
      simpa using inside.length_le
    have positive := List.length_pos_iff.2 top
    omega

theorem isFolder_put {target : List String} (found : files.isFolder place) :
    (files.put target text).isFolder place := by
  simp only [isFolder, put, Bool.or_eq_true, List.any_eq_true, Bool.and_eq_true, bne_iff_ne,
    List.mem_cons, List.mem_filter] at found ⊢
  rcases found with found | ⟨entry, listed, inside⟩
  · exact .inl found
  right
  by_cases same : entry.1 = target
  · exact ⟨(target, text), .inl rfl, same ▸ inside⟩
  · exact ⟨entry, .inr ⟨listed, same⟩, inside⟩

theorem isFolder_put_self (absent : files.isFolder place = false) :
    (files.put place text).isFolder place = false := by
  rw [← Bool.not_eq_true] at absent ⊢
  intro found
  apply absent
  simp only [isFolder, put, Bool.or_eq_true, List.any_eq_true, Bool.and_eq_true, bne_iff_ne,
    List.mem_cons, List.mem_filter] at found ⊢
  rcases found with found | ⟨entry, rfl | ⟨listed, -⟩, inside⟩
  · exact .inl found
  · exact absurd rfl inside.2
  · exact .inr ⟨entry, listed, inside⟩

theorem textAt?_put_self (files : Files) (place : List String) (text : String) :
    (files.put place text).textAt? place = some text := by
  simp [textAt?, put]

section

variable {here rest : List String} {part : String}

theorem follow_up (files : Files) (here rest : List String) :
    files.follow here (".." :: rest) = files.follow here.dropLast rest := by
  rw [follow, if_pos rfl]

theorem follow_into (down : part ≠ "..") (folder : files.isFolder (here ++ [part])) :
    files.follow here (part :: rest) = files.follow (here ++ [part]) rest := by
  rw [follow, if_neg down, if_pos folder]

theorem follow_ne_folder (down : part ≠ "..") (other : files.isFolder (here ++ [part]) = false) :
    files.follow here (part :: rest) ≠ .folder := by
  rw [follow, if_neg down, if_neg (by simp [other])]
  split
  · split <;> nofun
  · nofun

theorem follow_ne_file (down : part ≠ "..") (other : files.isFolder (here ++ [part]) = false)
    (more : rest ≠ []) (old : String) : files.follow here (part :: rest) ≠ .file old := by
  rw [follow, if_neg down, if_neg (by simp [other])]
  split
  · rw [if_neg (by simpa using more)]
    nofun
  · nofun

end

/-- What a file may be written under: a path that leads to a file, or to nothing in a folder. -/
def Free (files : Files) (here parts : List String) : Prop :=
  (∃ old, files.follow here parts = .file old) ∨
    files.follow here parts = .absent ∧ files.follow here parts.dropLast = .folder

theorem free_cons {here parts : List String} {part : String} (more : parts ≠ [])
    (free : files.Free here (part :: parts)) :
    if part = ".." then files.Free here.dropLast parts
    else files.isFolder (here ++ [part]) ∧ files.Free (here ++ [part]) parts := by
  have shorter : (part :: parts).dropLast = part :: parts.dropLast :=
    List.dropLast_cons_of_ne_nil more
  rw [Free, shorter] at free
  by_cases up : part = ".."
  · subst up
    rw [follow_up, follow_up] at free
    rwa [if_pos rfl]
  rw [if_neg up]
  cases folder : files.isFolder (here ++ [part]) with
  | true =>
    rw [follow_into up folder, follow_into up folder] at free
    exact ⟨rfl, free⟩
  | false =>
    rcases free with ⟨old, file⟩ | ⟨-, below⟩
    · exact absurd file (follow_ne_file up folder more old)
    · exact absurd below (follow_ne_folder up folder)

theorem follow_put_last {here : List String} {part : String} (free : files.Free here [part]) :
    (files.put (Path.descend here [part]) text).follow here [part] = .file text := by
  by_cases up : part = ".."
  · subst up
    rw [Free, follow_up, follow, List.dropLast_singleton, follow] at free
    rcases free with ⟨old, file⟩ | ⟨absent, below⟩
    · split at file <;> cases file
    · split at below
      · rename_i folder
        rw [if_pos (isFolder_dropLast folder)] at absent
        cases absent
      · cases below
  have target : Path.descend here [part] = here ++ [part] := if_neg up
  cases folder : files.isFolder (here ++ [part]) with
  | true =>
    rw [Free, follow_into up folder, follow, if_pos folder] at free
    rcases free with ⟨old, file⟩ | ⟨absent, -⟩
    · cases file
    · cases absent
  | false =>
    rw [target, follow, if_neg up]
    dsimp only
    rw [isFolder_put_self folder, textAt?_put_self]
    rfl

theorem follow_put {here parts : List String} (free : files.Free here parts) :
    (files.put (Path.descend here parts) text).follow here parts = .file text := by
  induction parts generalizing here with
  | nil =>
    rcases free with ⟨old, file⟩ | ⟨absent, folder⟩
    · rw [follow] at file
      split at file <;> cases file
    · rw [List.dropLast_nil, absent] at folder
      cases folder
  | cons part rest ih =>
    by_cases more : rest = []
    · subst more
      exact follow_put_last free
    have next := free_cons more free
    have step : Path.descend here (part :: rest) =
        Path.descend (if part = ".." then here.dropLast else here ++ [part]) rest := rfl
    by_cases up : part = ".."
    · subst up
      rw [if_pos rfl] at next
      rw [step, if_pos rfl, follow_up]
      exact ih next
    · rw [if_neg up] at next
      rw [step, if_neg up, follow_into up (isFolder_put next.1)]
      exact ih next.2

end Files

namespace Workplace

variable {w w' : Workplace} {p : Path} {text : String}

theorem resolve_parts (w : Workplace) (p : Path) :
    (w.resolve p).parts = Path.descend (if p.isAbsolute then [] else w.folder) p.parts := by
  unfold resolve Path.resolve
  split <;> rfl

theorem put_of_write? (written : w.write? p text = .ok w') :
    w.files.Free (if p.isAbsolute then [] else w.folder) p.parts ∧
      w' = { w with files := w.files.put (w.resolve p).parts text } := by
  unfold write? at written
  split at written
  · rename_i old file
    cases written
    exact ⟨.inl ⟨old, file⟩, rfl⟩
  · cases written
  · cases written
  · rename_i absent
    split at written
    · rename_i folder
      cases written
      exact ⟨.inr ⟨absent, folder⟩, rfl⟩
    · cases written
    · cases written

theorem read?_of_write? (written : w.write? p text = .ok w') : w'.read? p = .ok text := by
  obtain ⟨free, rfl⟩ := put_of_write? written
  rw [read?, find, resolve_parts, Files.follow_put free]

end Workplace

end TypstMarkup
