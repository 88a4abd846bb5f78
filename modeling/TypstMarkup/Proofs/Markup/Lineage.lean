import TypstMarkup.Markup.Declared

/-!
Lineages. What a declared kind derives from keeps the order of the lineages of its bases, and of the
bases themselves, and names no kind twice. So its lineage starts with the kind and ends with
`object`, as theirs do.
-/
namespace TypstMarkup

namespace Kind

/-! ### Joining sequences -/

theorem nextInLine_eq_some {sequences : List (List Kind)} {kind : Kind}
    (found : nextInLine sequences = some kind) :
    (∃ s ∈ sequences, s.head? = some kind) ∧ ∀ s ∈ sequences, kind ∉ s.drop 1 := by
  have heads := List.mem_filterMap.1 (List.mem_of_find?_eq_some found)
  have behind := List.find?_some found
  simp only [List.all_eq_true, Bool.not_eq_true', List.contains_eq_mem,
    decide_eq_false_iff_not] at behind
  exact ⟨heads, behind⟩

/-- A sequence without its head if that is the kind next in line. -/
def advance (kind : Kind) (s : List Kind) : List Kind :=
  if s.head? = some kind then s.drop 1 else s

theorem notMem_advance {kind : Kind} {s : List Kind} (behind : kind ∉ s.drop 1) :
    kind ∉ advance kind s := by
  unfold advance
  split
  · exact behind
  · rename_i other
    cases s with
    | nil => exact List.not_mem_nil
    | cons first rest =>
      simp only [List.head?_cons, Option.some.injEq] at other
      simp only [List.mem_cons, not_or]
      exact ⟨Ne.symm other, behind⟩

theorem sublist_cons_of_advance {kind : Kind} {s line : List Kind}
    (later : (advance kind s).Sublist line) : s.Sublist (kind :: line) := by
  unfold advance at later
  split at later
  · rename_i first
    obtain ⟨rest, rfl⟩ := List.head?_eq_some_iff.1 first
    exact later.cons_cons kind
  · exact later.cons kind

theorem mem_of_mem_advance {kind other : Kind} {s : List Kind} (member : other ∈ advance kind s) :
    other ∈ s := by
  unfold advance at member
  split at member
  · exact List.mem_of_mem_drop member
  · exact member

/-- Joining ends when all sequences are spent, or takes a kind and goes on. -/
theorem join?_eq_some {fuel : Nat} {sequences : List (List Kind)} {line : List Kind}
    (joined : join? fuel sequences = some line) :
    ((∀ s ∈ sequences, s = []) ∧ line = []) ∨
      ∃ less kind rest, fuel = less + 1 ∧ line = kind :: rest ∧
        nextInLine (sequences.filter (!List.isEmpty ·)) = some kind ∧
        join? less ((sequences.filter (!List.isEmpty ·)).map (advance kind)) = some rest := by
  cases fuel with
  | zero => cases joined
  | succ less =>
    simp only [join?] at joined
    split at joined
    · rename_i spent
      rw [List.isEmpty_iff, List.filter_eq_nil_iff] at spent
      cases joined
      exact .inl ⟨by simpa using spent, rfl⟩
    · obtain ⟨kind, next, later⟩ := Option.bind_eq_some_iff.1 joined
      obtain ⟨rest, goesOn, same⟩ := Option.bind_eq_some_iff.1 later
      cases same
      exact .inr ⟨less, kind, rest, rfl, rfl, next, goesOn⟩

theorem sublist_of_join? {fuel : Nat} {sequences : List (List Kind)} {line s : List Kind}
    (joined : join? fuel sequences = some line) (member : s ∈ sequences) : s.Sublist line := by
  induction fuel generalizing sequences line s with
  | zero => cases joined
  | succ fuel ih =>
    rcases join?_eq_some joined with ⟨spent, rfl⟩ | ⟨less, kind, rest, same, rfl, -, joined⟩
    · obtain rfl := spent s member
      exact List.nil_sublist _
    · cases same
      by_cases empty : s = []
      · rw [empty]
        exact List.nil_sublist _
      · have isOpen : s ∈ sequences.filter (!List.isEmpty ·) :=
          List.mem_filter.2 ⟨member, by simpa using empty⟩
        exact sublist_cons_of_advance (ih joined (List.mem_map_of_mem isOpen))

theorem mem_of_join? {fuel : Nat} {sequences : List (List Kind)} {line : List Kind} {kind : Kind}
    (joined : join? fuel sequences = some line) (member : kind ∈ line) :
    ∃ s ∈ sequences, kind ∈ s := by
  induction fuel generalizing sequences line with
  | zero => cases joined
  | succ fuel ih =>
    rcases join?_eq_some joined with ⟨-, rfl⟩ | ⟨less, first, rest, same, rfl, next, joined⟩
    · cases member
    · cases same
      rcases List.mem_cons.1 member with rfl | later
      · obtain ⟨s, isOpen, head⟩ := (nextInLine_eq_some next).1
        exact ⟨s, (List.mem_filter.1 isOpen).1, List.mem_of_head? head⟩
      · obtain ⟨t, advanced, inside⟩ := ih joined later
        obtain ⟨s, isOpen, rfl⟩ := List.mem_map.1 advanced
        exact ⟨s, (List.mem_filter.1 isOpen).1, mem_of_mem_advance inside⟩

theorem nodup_of_join? {fuel : Nat} {sequences : List (List Kind)} {line : List Kind}
    (joined : join? fuel sequences = some line) : line.Nodup := by
  induction fuel generalizing sequences line with
  | zero => cases joined
  | succ fuel ih =>
    rcases join?_eq_some joined with ⟨-, rfl⟩ | ⟨less, kind, rest, same, rfl, next, joined⟩
    · exact List.nodup_nil
    · cases same
      refine List.nodup_cons.2 ⟨fun again => ?_, ih joined⟩
      obtain ⟨t, advanced, inside⟩ := mem_of_join? joined again
      obtain ⟨s, isOpen, rfl⟩ := List.mem_map.1 advanced
      exact notMem_advance ((nextInLine_eq_some next).2 s isOpen) inside

/-- The kind that ends every sequence with a kind in it ends their join. -/
theorem getLast?_of_join? {fuel : Nat} {sequences : List (List Kind)} {line : List Kind}
    {top : Kind} (joined : join? fuel sequences = some line) (present : line ≠ [])
    (below : ∀ kind ∈ line, ∃ s ∈ sequences, kind ∈ s ∧ s.getLast? = some top) :
    line.getLast? = some top := by
  obtain ⟨last, ending⟩ := Option.isSome_iff_exists.1 (List.getLast?_isSome.2 present)
  obtain ⟨before, rfl⟩ := List.getLast?_eq_some_iff.1 ending
  obtain ⟨s, listed, inside, ends⟩ := below last (by simp)
  obtain ⟨early, rfl⟩ := List.getLast?_eq_some_iff.1 ends
  by_cases same : last = top
  · rw [ending, same]
  · -- The last kind would stand before the top, in a join without repetitions that it ends.
    have first : last ∈ early := by simpa [same] using inside
    have pair : [last, top].Sublist (before ++ [last]) :=
      ((List.singleton_sublist.2 first).append_right [top]).trans (sublist_of_join? joined listed)
    have backwards : [top, last].Sublist (last :: before.reverse) := by
      simpa using List.reverse_sublist.2 pair
    have again : [top, last].Sublist before.reverse := by
      simpa [List.sublist_cons_iff, Ne.symm same] using backwards
    have distinct : last ∉ before := fun member =>
      (List.nodup_append.1 (nodup_of_join? joined)).2.2 last member last (by simp) rfl
    exact absurd (List.mem_reverse.1 (again.subset (by simp))) distinct

end Kind

namespace Markup.Registry

/-! ### Declared kinds -/

/-- Lineages as they are declared: each starts with its kind and ends with `object`. -/
structure Ordered (r : Registry) : Prop where
  first : ∀ kind, (r.lineage kind).head? = some kind
  last : ∀ kind, (r.lineage kind).getLast? = some .object

theorem ordered_of_lineages {r s : Registry} (ordered : r.Ordered)
    (same : s.lineages = r.lineages) : s.Ordered := by
  have agree (kind : Kind) : s.lineage kind = r.lineage kind := by rw [lineage, same, lineage]
  constructor
  · intro kind
    rw [agree, ordered.first]
  · intro kind
    rw [agree, ordered.last]

theorem ordered_builtin : builtin.Ordered where
  first kind := by cases kind <;> rfl
  last kind := by cases kind <;> rfl

theorem declare_eq_ok {r s : Registry} {kind : Kind} {bases : List Kind}
    (declared : r.declare kind bases = .ok s) : ∃ bases fuel line, bases ≠ [] ∧
      Kind.join? fuel (bases.map r.lineage ++ [bases]) = some line ∧
      s = { r with lineages := r.lineages.register kind (kind :: line) } := by
  unfold declare at declared
  extract_lets bases at declared
  have given : bases ≠ [] := by
    simp only [bases]
    split
    · exact List.cons_ne_nil _ _
    · rename_i present
      simpa using present
  split at declared
  · cases declared
  · split at declared
    · rename_i line joined
      cases declared
      exact ⟨bases, _, line, given, joined, rfl⟩
    · cases declared

/-- A declaration keeps the order of lineages. -/
theorem Ordered.declare {r s : Registry} (ordered : r.Ordered) {kind : Kind} {bases : List Kind}
    (declared : r.declare kind bases = .ok s) : s.Ordered := by
  obtain ⟨bases, fuel, line, given, joined, rfl⟩ := declare_eq_ok declared
  have below : ∀ k ∈ line, ∃ s ∈ bases.map r.lineage ++ [bases],
      k ∈ s ∧ s.getLast? = some .object := by
    intro k member
    obtain ⟨s, listed, inside⟩ := Kind.mem_of_join? joined member
    rcases List.mem_append.1 listed with ofBase | isBases
    · obtain ⟨base, -, rfl⟩ := List.mem_map.1 ofBase
      exact ⟨_, listed, inside, ordered.last base⟩
    · rw [List.mem_singleton.1 isBases] at inside
      refine ⟨r.lineage k, ?_, List.mem_of_head? (ordered.first k), ordered.last k⟩
      exact List.mem_append_left _ (List.mem_map_of_mem inside)
  have present : line ≠ [] := by
    obtain ⟨base, rest, rfl⟩ := List.exists_cons_of_ne_nil given
    have kept := Kind.sublist_of_join? joined (s := base :: rest) (by simp)
    rintro rfl
    cases kept
  have ends := Kind.getLast?_of_join? joined present below
  have lineage_eq (other : Kind) : Registry.lineage
      { r with lineages := r.lineages.register kind (kind :: line) } other =
        if kind = other then kind :: line else r.lineage other := by
    rw [lineage, Table.get?_register]
    split <;> rfl
  constructor
  · intro other
    rw [lineage_eq]
    split
    · rename_i same
      rw [same, List.head?_cons]
    · exact ordered.first other
  · intro other
    rw [lineage_eq]
    split
    · rw [List.getLast?_cons, ends, Option.getD_some]
    · exact ordered.last other

end Markup.Registry

end TypstMarkup
