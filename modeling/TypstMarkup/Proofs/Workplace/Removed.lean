import TypstMarkup.Proofs.Workplace.Written

/-!
Removed files. Where a file is removed, its folder stays, and every path that does not lead to the
place of the file leads to the same file as before.
-/
namespace TypstMarkup

namespace Files

/-- Removes the file at an absolute place; the folder it was in stays. -/
def remove (files : Files) (gone : List String) : Files where
  texts := files.texts.filter fun entry => entry.1 != gone
  folders := gone.dropLast :: files.folders

variable {files : Files} {gone place : List String} {text : String}

theorem textAt?_remove_self (files : Files) (gone : List String) :
    (files.remove gone).textAt? gone = none := by
  rw [textAt?, Option.map_eq_none_iff, List.find?_eq_none]
  intro entry listed same
  simp only [remove, List.mem_filter, bne_iff_ne] at listed
  exact listed.2 (by simpa using same)

theorem textAt?_remove_of_ne (other : place ≠ gone) :
    (files.remove gone).textAt? place = files.textAt? place := by
  simp only [textAt?, remove, List.find?_filter]
  congr 2
  funext entry
  by_cases same : entry.1 = place <;> simp [same, other]

theorem prefix_dropLast (inside : place <+: gone) (other : place ≠ gone) :
    place <+: gone.dropLast := by
  rcases List.eq_nil_or_concat gone with rfl | ⟨parent, name, rfl⟩
  · exact absurd (List.prefix_nil.1 inside) other
  · rw [List.concat_eq_append] at inside other ⊢
    rw [List.dropLast_concat]
    exact (List.prefix_concat_iff.1 inside).resolve_left other

theorem ne_of_prefix_dropLast (filled : place ≠ []) (inside : place <+: gone.dropLast) :
    place ≠ gone := by
  rintro rfl
  have less := inside.length_le
  have positive := List.length_pos_iff.2 filled
  rw [List.length_dropLast] at less
  omega

/-- A file lies in its folder, so removing it makes or breaks no folder. -/
theorem isFolder_remove (held : files.textAt? gone = some text) (place : List String) :
    (files.remove gone).isFolder place = files.isFolder place := by
  obtain ⟨entry, found, -⟩ := Option.map_eq_some_iff.1 held
  have listed := List.mem_of_find?_eq_some found
  have same : entry.1 = gone := by simpa using List.find?_some found
  rw [Bool.eq_iff_iff]
  simp only [isFolder, remove, Bool.or_eq_true, List.any_eq_true, Bool.and_eq_true, bne_iff_ne,
    List.isPrefixOf_iff_prefix, List.isEmpty_iff, List.mem_cons, List.mem_filter]
  constructor
  · rintro ((top | ⟨folder, rfl | kept, inside⟩) | ⟨other, ⟨kept, -⟩, inside⟩)
    · exact .inl (.inl top)
    · by_cases top : place = []
      · exact .inl (.inl top)
      · refine .inr ⟨entry, listed, ?_⟩
        rw [same]
        exact ⟨inside.trans (List.dropLast_prefix gone), ne_of_prefix_dropLast top inside⟩
    · exact .inl (.inr ⟨folder, kept, inside⟩)
    · exact .inr ⟨other, kept, inside⟩
  · rintro ((top | ⟨folder, kept, inside⟩) | ⟨other, kept, inside, differs⟩)
    · exact .inl (.inl top)
    · exact .inl (.inr ⟨folder, .inr kept, inside⟩)
    · by_cases removed : other.1 = gone
      · rw [removed] at inside differs
        exact .inl (.inr ⟨gone.dropLast, .inl rfl, prefix_dropLast inside differs⟩)
      · exact .inr ⟨other, ⟨kept, removed⟩, inside, differs⟩

theorem follow_remove (held : files.textAt? gone = some text) {here parts : List String}
    (other : Path.descend here parts ≠ gone) (content : String) :
    (files.remove gone).follow here parts = .file content ↔
      files.follow here parts = .file content := by
  induction parts generalizing here with
  | nil => rw [follow, follow, isFolder_remove held]
  | cons part rest ih =>
    rw [follow, follow]
    by_cases up : part = ".."
    · rw [if_pos up, if_pos up]
      exact ih (by rwa [Path.descend, List.foldl_cons, if_pos up] at other)
    rw [if_neg up, if_neg up]
    dsimp only
    rw [isFolder_remove held]
    rw [Path.descend, List.foldl_cons, if_neg up] at other
    split
    · exact ih other
    cases rest with
    | nil =>
      have last : here ++ [part] ≠ gone := other
      rw [textAt?_remove_of_ne last]
    | cons next rest =>
      -- Nothing below a file is a file, whether the one above is removed or not.
      constructor
      · intro found
        split at found <;> cases found
      · intro found
        split at found <;> cases found

/-- A path that leads to a file leads to what stands at the place it is for. -/
theorem textAt?_of_follow {here parts : List String} {content : String}
    (found : files.follow here parts = .file content) :
    files.textAt? (Path.descend here parts) = some content := by
  induction parts generalizing here with
  | nil =>
    rw [follow] at found
    split at found <;> cases found
  | cons part rest ih =>
    rw [follow] at found
    rw [Path.descend, List.foldl_cons]
    split at found
    · rename_i up
      rw [if_pos up]
      exact ih found
    rename_i up
    rw [if_neg up]
    dsimp only at found
    split at found
    · exact ih found
    split at found
    · rename_i held
      split at found
      · rename_i last
        cases found
        rw [List.isEmpty_iff.1 last]
        exact held
      · cases found
    · cases found

end Files

namespace Workplace

/-- Removes the file at an absolute place. -/
def without (w : Workplace) (gone : List String) : Workplace :=
  { w with files := w.files.remove gone }

variable {w : Workplace} {gone : List String} {p : Path} {text : String}

theorem textAt?_of_find (found : w.find p = .file text) :
    w.files.textAt? (w.resolve p).parts = some text := by
  rw [resolve_parts]
  exact Files.textAt?_of_follow found

theorem find_without (held : w.files.textAt? gone = some text) (other : (w.resolve p).parts ≠ gone)
    (content : String) : (w.without gone).find p = .file content ↔ w.find p = .file content := by
  rw [resolve_parts] at other
  exact Files.follow_remove held other content

theorem find_without_self (here : (w.resolve p).parts = gone) (content : String) :
    (w.without gone).find p ≠ .file content := by
  intro found
  have held := textAt?_of_find found
  have same : ((w.without gone).resolve p).parts = gone := here
  rw [same] at held
  exact absurd held (by rw [without, Files.textAt?_remove_self]; nofun)

theorem hasFile_iff : w.hasFile p = true ↔ ∃ content, w.find p = .file content := by
  unfold hasFile
  split
  · rename_i content found
    exact ⟨fun _ => ⟨content, found⟩, fun _ => rfl⟩
  · rename_i other
    exact ⟨nofun, fun ⟨content, found⟩ => absurd found (other content)⟩

theorem hasFile_without (held : w.files.textAt? gone = some text)
    (other : (w.resolve p).parts ≠ gone) : (w.without gone).hasFile p = w.hasFile p := by
  rw [Bool.eq_iff_iff, hasFile_iff, hasFile_iff]
  exact exists_congr fun content => find_without held other content

theorem hasFile_without_self (here : (w.resolve p).parts = gone) :
    (w.without gone).hasFile p = false := by
  rw [← Bool.not_eq_true, hasFile_iff]
  exact fun ⟨content, found⟩ => find_without_self here content found

end Workplace

end TypstMarkup
