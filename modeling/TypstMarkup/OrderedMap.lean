/-!
Maps from names that remember the order of first insertion. Replacing a value keeps its place, so
the order of the keys is part of a map's identity, and its distinct keys are part of its type.
-/
namespace TypstMarkup

/-- A map from names with distinct keys in order of insertion. -/
structure OrderedMap (α : Type) where
  entries : List (String × α)
  nodup_keys : (entries.map Prod.fst).Nodup

namespace OrderedMap

variable {α : Type}

/-- Replaces the value of a key in place, or appends the key. -/
def putEntry (entries : List (String × α)) (key : String) (value : α) : List (String × α) :=
  match entries with
  | [] => [(key, value)]
  | (k, v) :: rest =>
    if k = key then (k, value) :: rest else (k, v) :: putEntry rest key value

theorem mem_keys_putEntry (entries : List (String × α)) (key : String) (value : α) (k : String) :
    k ∈ (putEntry entries key value).map Prod.fst ↔ k ∈ entries.map Prod.fst ∨ k = key := by
  induction entries with
  | nil => simp [putEntry]
  | cons entry rest ih =>
    obtain ⟨k', v⟩ := entry
    by_cases h : k' = key
    · subst h
      simp only [putEntry, ↓reduceIte, List.map_cons, List.mem_cons]
      grind
    · simp only [putEntry, h, ↓reduceIte, List.map_cons, List.mem_cons, ih]
      grind

theorem nodup_keys_putEntry (entries : List (String × α)) (key : String) (value : α)
    (distinct : (entries.map Prod.fst).Nodup) :
    ((putEntry entries key value).map Prod.fst).Nodup := by
  induction entries with
  | nil => simp [putEntry]
  | cons entry rest ih =>
    obtain ⟨k', v⟩ := entry
    rw [List.map_cons, List.nodup_cons] at distinct
    by_cases h : k' = key
    · simpa [putEntry, h] using distinct
    · simp only [putEntry, h, ↓reduceIte, List.map_cons, List.nodup_cons]
      refine ⟨fun member => ?_, ih distinct.2⟩
      rcases (mem_keys_putEntry rest key value k').1 member with old | new
      · exact distinct.1 old
      · exact h new

def empty : OrderedMap α := ⟨[], List.nodup_nil⟩

instance : Inhabited (OrderedMap α) := ⟨empty⟩

def insert (m : OrderedMap α) (key : String) (value : α) : OrderedMap α :=
  ⟨putEntry m.entries key value, nodup_keys_putEntry m.entries key value m.nodup_keys⟩

def insertAll (m : OrderedMap α) (entries : List (String × α)) : OrderedMap α :=
  entries.foldl (fun m entry => m.insert entry.1 entry.2) m

def ofList (entries : List (String × α)) : OrderedMap α :=
  empty.insertAll entries

def get? (m : OrderedMap α) (key : String) : Option α :=
  (m.entries.find? fun entry => entry.1 == key).map Prod.snd

def contains (m : OrderedMap α) (key : String) : Bool :=
  m.entries.any fun entry => entry.1 == key

def keys (m : OrderedMap α) : List String :=
  m.entries.map Prod.fst

def size (m : OrderedMap α) : Nat :=
  m.entries.length

def update (m other : OrderedMap α) : OrderedMap α :=
  m.insertAll other.entries

def missing (m defaults : OrderedMap α) : List (String × α) :=
  defaults.entries.filter fun entry => !m.contains entry.1

def fill (m defaults : OrderedMap α) : OrderedMap α :=
  m.insertAll (m.missing defaults)

theorem ext {m n : OrderedMap α} (same : m.entries = n.entries) : m = n := by
  cases m; cases n; simp_all

/-! ### What insertion does to the view of a map -/

theorem find?_putEntry_self (entries : List (String × α)) (key : String) (value : α) :
    (putEntry entries key value).find? (fun entry => entry.1 == key) = some (key, value) := by
  induction entries with
  | nil => simp [putEntry]
  | cons entry rest ih =>
    obtain ⟨k, v⟩ := entry
    by_cases h : k = key
    · subst h; simp [putEntry]
    · rw [putEntry, if_neg h, List.find?_cons_of_neg (by simpa using h)]
      exact ih

theorem find?_putEntry_of_ne (entries : List (String × α)) {key other : String} (value : α)
    (h : other ≠ key) :
    (putEntry entries key value).find? (fun entry => entry.1 == other) =
      entries.find? (fun entry => entry.1 == other) := by
  induction entries with
  | nil => simp [putEntry, Ne.symm h]
  | cons entry rest ih =>
    obtain ⟨k, v⟩ := entry
    by_cases same : k = key
    · subst same; simp [putEntry, Ne.symm h]
    · rw [putEntry, if_neg same, List.find?_cons, List.find?_cons, ih]

@[simp] theorem get?_empty (key : String) : (empty : OrderedMap α).get? key = none := rfl

@[simp] theorem get?_insert_self (m : OrderedMap α) (key : String) (value : α) :
    (m.insert key value).get? key = some value := by
  rw [get?, insert, find?_putEntry_self, Option.map_some]

theorem get?_insert_of_ne (m : OrderedMap α) {key other : String} (value : α)
    (h : other ≠ key) : (m.insert key value).get? other = m.get? other := by
  rw [get?, insert, find?_putEntry_of_ne m.entries value h, get?]

theorem contains_iff (m : OrderedMap α) (key : String) : m.contains key ↔ key ∈ m.keys := by
  simp [contains, keys]

end OrderedMap

end TypstMarkup
