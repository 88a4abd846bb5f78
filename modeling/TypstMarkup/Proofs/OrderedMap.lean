import TypstMarkup.OrderedMap

/-!
What setting several keys does to a map: the value that a key was given last counts, and keys that
are new stand behind the others in the order in which they were set. Values and the order of the
keys determine a map, so updating and filling are associative, orders included.
-/
namespace TypstMarkup

/-- What the last of some values that gives something gives. -/
def lastOf {α β : Type} (give : α → Option β) (layers : List α) : Option β :=
  layers.reverse.findSome? give

section

variable {α β γ : Type} {give : α → Option β}

theorem lastOf_singleton (layer : α) : lastOf give [layer] = give layer := by
  simp [lastOf]

theorem lastOf_append (lower upper : List α) :
    lastOf give (lower ++ upper) = (lastOf give upper).or (lastOf give lower) := by
  rw [lastOf, List.reverse_append, List.findSome?_append]
  rfl

theorem lastOf_cons (first : α) (rest : List α) :
    lastOf give (first :: rest) = (lastOf give rest).or (give first) := by
  rw [← List.singleton_append, lastOf_append, lastOf_singleton]

theorem lastOf_map {f : γ → α} (layers : List γ) :
    lastOf give (layers.map f) = lastOf (fun layer => give (f layer)) layers := by
  rw [lastOf, ← List.map_reverse, List.findSome?_map]
  rfl

/-- A first layer that is asked once more changes nothing. -/
theorem lastOf_cons_or (first : α) (rest : List α) :
    (lastOf give (first :: rest)).or (give first) = lastOf give (first :: rest) := by
  rw [lastOf_cons, Option.or_assoc, Option.or_self]

theorem lastOf_mem {layers : List α} {b : β} (found : lastOf give layers = some b) :
    ∃ layer ∈ layers, give layer = some b := by
  obtain ⟨layer, listed, gives⟩ := List.exists_of_findSome?_eq_some found
  exact ⟨layer, List.mem_reverse.1 listed, gives⟩

end

namespace OrderedMap

variable {α : Type}

/-! ### The view of a map -/

theorem find?_eq_none_of_notMem {entries : List (String × α)} {key : String}
    (absent : key ∉ entries.map Prod.fst) :
    entries.find? (fun entry => entry.1 == key) = none := by
  rw [List.find?_eq_none]
  intro entry member same
  exact absent (List.mem_map.2 ⟨entry, member, by simpa using same⟩)

theorem find?_of_mem {entries : List (String × α)} (distinct : (entries.map Prod.fst).Nodup)
    {key : String} {v : α} (listed : (key, v) ∈ entries) :
    entries.find? (fun entry => entry.1 == key) = some (key, v) := by
  induction entries with
  | nil => cases listed
  | cons entry rest ih =>
    rw [List.map_cons, List.nodup_cons] at distinct
    rcases List.mem_cons.1 listed with rfl | later
    · exact List.find?_cons_of_pos (by simp)
    · have other : entry.1 ≠ key := by
        rintro rfl
        exact distinct.1 (List.mem_map.2 ⟨_, later, rfl⟩)
      rw [List.find?_cons_of_neg (by simpa using other), ih distinct.2 later]

theorem find?_congr_perm {entries others : List (String × α)} (perm : entries.Perm others)
    (distinct : (entries.map Prod.fst).Nodup) (key : String) :
    entries.find? (fun entry => entry.1 == key) = others.find? fun entry => entry.1 == key := by
  have distinctOthers : (others.map Prod.fst).Nodup := (perm.map Prod.fst).nodup_iff.1 distinct
  cases found : entries.find? fun entry => entry.1 == key with
  | some entry =>
    have listed := perm.mem_iff.1 (List.mem_of_find?_eq_some found)
    obtain rfl : entry.1 = key := by simpa using List.find?_some found
    exact (find?_of_mem distinctOthers listed).symm
  | none =>
    symm
    rw [List.find?_eq_none] at found ⊢
    intro entry listed
    exact found entry (perm.mem_iff.2 listed)

theorem get?_of_mem (m : OrderedMap α) {key : String} {v : α} (listed : (key, v) ∈ m.entries) :
    m.get? key = some v := by
  rw [get?, find?_of_mem m.nodup_keys listed, Option.map_some]

theorem get?_eq_some_iff (m : OrderedMap α) {key : String} {v : α} :
    m.get? key = some v ↔ (key, v) ∈ m.entries := by
  refine ⟨fun found => ?_, m.get?_of_mem⟩
  obtain ⟨entry, first, rfl⟩ := Option.map_eq_some_iff.1 found
  obtain rfl : entry.1 = key := by simpa using List.find?_some first
  exact List.mem_of_find?_eq_some first

theorem get?_insertAll (m : OrderedMap α) {entries : List (String × α)}
    (distinct : (entries.map Prod.fst).Nodup) (key : String) :
    (m.insertAll entries).get? key =
      ((entries.find? fun entry => entry.1 == key).map Prod.snd).or (m.get? key) := by
  induction entries generalizing m with
  | nil => rfl
  | cons entry rest ih =>
    obtain ⟨k, v⟩ := entry
    rw [List.map_cons, List.nodup_cons] at distinct
    have later := ih (m.insert k v) distinct.2
    rw [insertAll, List.foldl_cons, ← insertAll, later]
    by_cases same : k = key
    · subst same
      rw [find?_eq_none_of_notMem distinct.1, List.find?_cons_of_pos (by simp)]
      simp
    · rw [get?_insert_of_ne m v (Ne.symm same), List.find?_cons_of_neg (by simpa using same)]

theorem putEntry_putEntry (entries : List (String × α)) (key : String) (v w : α) :
    putEntry (putEntry entries key v) key w = putEntry entries key w := by
  induction entries with
  | nil => simp [putEntry]
  | cons entry rest ih =>
    obtain ⟨k, u⟩ := entry
    by_cases same : k = key
    · simp [putEntry, same]
    · simp [putEntry, same, ih]

/-- The value that a key was given last counts. -/
theorem insert_insert (m : OrderedMap α) (key : String) (v w : α) :
    (m.insert key v).insert key w = m.insert key w :=
  ext (putEntry_putEntry m.entries key v w)

theorem get?_update (m other : OrderedMap α) (key : String) :
    (m.update other).get? key = (other.get? key).or (m.get? key) :=
  get?_insertAll m other.nodup_keys key

theorem find?_missing (m : OrderedMap α) (entries : List (String × α)) (key : String) :
    (entries.filter fun entry => !m.contains entry.1).find? (fun entry => entry.1 == key) =
      if m.contains key then none else entries.find? fun entry => entry.1 == key := by
  induction entries with
  | nil => simp
  | cons entry rest ih =>
    by_cases same : entry.1 = key
    · subst same
      cases present : m.contains entry.1 <;> simp [present, ih]
    · cases present : m.contains entry.1 <;> simp [present, same, ih]

theorem isSome_get? (m : OrderedMap α) (key : String) : (m.get? key).isSome = m.contains key := by
  rw [Bool.eq_iff_iff, get?, Option.isSome_map, List.find?_isSome, contains, List.any_eq_true]

theorem get?_fill (m defaults : OrderedMap α) (key : String) :
    (m.fill defaults).get? key = (m.get? key).or (defaults.get? key) := by
  have distinct : ((m.missing defaults).map Prod.fst).Nodup :=
    defaults.nodup_keys.sublist (List.filter_sublist.map _)
  rw [fill, get?_insertAll m distinct, missing, find?_missing, ← isSome_get?]
  cases m.get? key with
  | none => simp [get?]
  | some v => simp

/-! ### The order of the keys -/

theorem putEntry_of_notMem {entries : List (String × α)} {key : String}
    (absent : key ∉ entries.map Prod.fst) (v : α) :
    putEntry entries key v = entries ++ [(key, v)] := by
  induction entries with
  | nil => rfl
  | cons entry rest ih =>
    obtain ⟨k, w⟩ := entry
    simp only [List.map_cons, List.mem_cons, not_or] at absent
    rw [putEntry, if_neg (Ne.symm absent.1), ih absent.2, List.cons_append]

theorem entries_insertAll (m : OrderedMap α) {entries : List (String × α)}
    (distinct : ((m.entries ++ entries).map Prod.fst).Nodup) :
    (m.insertAll entries).entries = m.entries ++ entries := by
  induction entries generalizing m with
  | nil => exact (List.append_nil _).symm
  | cons entry rest ih =>
    have absent : entry.1 ∉ m.entries.map Prod.fst := by
      rw [List.map_append, List.nodup_append] at distinct
      intro member
      exact distinct.2.2 _ member _ (List.mem_cons_self) rfl
    have inserted : (m.insert entry.1 entry.2).entries = m.entries ++ [entry] :=
      putEntry_of_notMem absent entry.2
    have step := ih (m.insert entry.1 entry.2) (by
      rw [inserted, List.append_assoc]
      exact distinct)
    rw [insertAll, List.foldl_cons, ← insertAll, step, inserted, List.append_assoc]
    rfl

theorem ofList_entries (m : OrderedMap α) : ofList m.entries = m :=
  ext (entries_insertAll empty m.nodup_keys)

/-! ### Maps with the same order -/

theorem map_entries (m : OrderedMap α) :
    (m.entries.map fun entry => (entry.1, some entry.2)) =
      m.keys.map fun key => (key, m.get? key) := by
  rw [keys, List.map_map]
  refine List.map_congr_left fun entry listed => ?_
  rw [Function.comp_apply, m.get?_of_mem listed]

/-- A map is determined by its values and the order of its keys. -/
theorem ext_keys {m n : OrderedMap α} (order : m.keys = n.keys)
    (values : ∀ key, m.get? key = n.get? key) : m = n := by
  have same : (m.entries.map fun entry => (entry.1, some entry.2)) =
      n.entries.map fun entry => (entry.1, some entry.2) := by
    rw [map_entries, map_entries, order]
    exact List.map_congr_left fun key _ => by rw [values]
  refine ext ((List.map_inj_right ?_).1 same)
  rintro ⟨k, v⟩ ⟨k', v'⟩ equal
  simpa using equal

theorem map_putEntry (entries : List (String × α)) (key : String) (value : α) :
    (putEntry entries key value).map Prod.fst =
      if key ∈ entries.map Prod.fst then entries.map Prod.fst
      else entries.map Prod.fst ++ [key] := by
  induction entries with
  | nil => rfl
  | cons entry rest ih =>
    obtain ⟨k, v⟩ := entry
    by_cases same : k = key
    · simp [putEntry, same]
    · rw [putEntry, if_neg same, List.map_cons, ih]
      simp only [List.map_cons, List.mem_cons, Ne.symm same, false_or]
      split <;> rfl

theorem keys_insert (m : OrderedMap α) (key : String) (value : α) :
    (m.insert key value).keys = if key ∈ m.keys then m.keys else m.keys ++ [key] :=
  map_putEntry m.entries key value

/-- Keys that are present keep their place, and new ones follow in the order in which they are
set. -/
theorem keys_insertAll (m : OrderedMap α) {entries : List (String × α)}
    (distinct : (entries.map Prod.fst).Nodup) :
    (m.insertAll entries).keys = m.keys ++ (entries.map Prod.fst).filter (· ∉ m.keys) := by
  induction entries generalizing m with
  | nil => exact (List.append_nil _).symm
  | cons entry rest ih =>
    obtain ⟨key, value⟩ := entry
    rw [List.map_cons, List.nodup_cons] at distinct
    rw [insertAll, List.foldl_cons, ← insertAll, ih _ distinct.2, keys_insert, List.map_cons]
    by_cases present : key ∈ m.keys
    · rw [if_pos present, List.filter_cons_of_neg (by simpa using present)]
    · have others : (rest.map Prod.fst).filter (· ∉ m.keys ++ [key]) =
          (rest.map Prod.fst).filter (· ∉ m.keys) := by
        refine List.filter_congr fun other listed => ?_
        have different : other ≠ key := by
          rintro rfl
          exact distinct.1 listed
        simp [different]
      rw [if_neg present, List.filter_cons_of_pos (by simpa using present), others,
        List.append_assoc]
      rfl

theorem keys_update (m other : OrderedMap α) :
    (m.update other).keys = m.keys ++ other.keys.filter (· ∉ m.keys) :=
  keys_insertAll m other.nodup_keys

theorem map_missing (m defaults : OrderedMap α) :
    (m.missing defaults).map Prod.fst = defaults.keys.filter (· ∉ m.keys) := by
  rw [missing, keys, keys, List.filter_map]
  refine congrArg _ (List.filter_congr fun entry _ => ?_)
  rw [Bool.eq_iff_iff, Bool.not_eq_true', ← Bool.not_eq_true, contains_iff]
  exact (decide_eq_true_iff).symm

theorem keys_fill (m defaults : OrderedMap α) :
    (m.fill defaults).keys = m.keys ++ defaults.keys.filter (· ∉ m.keys) := by
  have distinct : ((m.missing defaults).map Prod.fst).Nodup :=
    defaults.nodup_keys.sublist (List.filter_sublist.map _)
  rw [fill, keys_insertAll m distinct, map_missing, List.filter_filter]
  simp

/-- Appending what is new goes from left to right. -/
theorem append_new_assoc (xs ys zs : List String) :
    xs ++ ys.filter (· ∉ xs) ++ zs.filter (· ∉ xs ++ ys.filter (· ∉ xs)) =
      xs ++ (ys ++ zs.filter (· ∉ ys)).filter (· ∉ xs) := by
  rw [List.append_assoc, List.filter_append, List.filter_filter]
  congr 2
  refine List.filter_congr fun key _ => ?_
  by_cases inFirst : key ∈ xs <;> simp [inFirst]

theorem update_update (m a b : OrderedMap α) : (m.update a).update b = m.update (a.update b) := by
  refine ext_keys ?_ fun key => ?_
  · simp only [keys_update, append_new_assoc]
  · simp only [get?_update, Option.or_assoc]

theorem fill_fill (m d f : OrderedMap α) : (m.fill d).fill f = m.fill (d.fill f) := by
  refine ext_keys ?_ fun key => ?_
  · simp only [keys_fill, append_new_assoc]
  · simp only [get?_fill, Option.or_assoc]

/-! ### Layers -/

theorem get?_foldl_update (m : OrderedMap α) (layers : List (OrderedMap α)) (key : String) :
    (layers.foldl update m).get? key = lastOf (fun layer => layer.get? key) (m :: layers) := by
  induction layers generalizing m with
  | nil => exact (lastOf_singleton _).symm
  | cons layer rest ih =>
    rw [List.foldl_cons, ih, lastOf_cons, lastOf_cons, lastOf_cons, get?_update, Option.or_assoc]

/-- Setting keys in order puts one layer for each of them on top. -/
theorem insertAll_eq_foldl_update (m : OrderedMap α) (entries : List (String × α)) :
    m.insertAll entries = (entries.map fun entry => ofList [entry]).foldl update m := by
  rw [List.foldl_map]
  rfl

end OrderedMap

end TypstMarkup
