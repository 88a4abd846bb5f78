import TypstMarkup.Value.Build
import TypstMarkup.Proofs.Markup.Frame

/-!
Elements formatted on their own. The text of a container is put together from the texts of its
elements, and each of them is what the element is formatted as alone, under the settings of the
container one step deeper and in math mode. So elements can be replaced by their texts.
-/
namespace TypstMarkup.Markup

open Context (Alike)

/-! ### Parts of containers -/

def IsContainer : Value → Prop
  | .list _ | .tuple _ | .matrix _ => True
  | _ => False

mutual

/-- A value with the chosen parts replaced, where `count` containers stand around it. A part of a
list or tuple is chosen by its place in it, and one of a matrix by its row and its column; the
places of containers come before those of their parts. Nothing in a replaced part is looked at. -/
def replaceIn (replacement : Value → Nat → Except Fault Value) (chosen : List Nat → Bool)
    (count : Nat) (v : Value) : Except Fault Value :=
  if chosen [] then replacement v count
  else
    match v with
    | .list items => (replaceItems replacement chosen (count + 1) 0 items).map .list
    | .tuple items => (replaceItems replacement chosen (count + 1) 0 items).map .tuple
    | .matrix rows => (replaceRows replacement chosen (count + 1) 0 rows).map .matrix
    | v => .ok v

/-- The items from a place on with the chosen parts replaced. -/
def replaceItems (replacement : Value → Nat → Except Fault Value) (chosen : List Nat → Bool)
    (count place : Nat) : List Value → Except Fault (List Value)
  | [] => .ok []
  | x :: rest => do
    let x ← replaceIn replacement (fun path => chosen (place :: path)) count x
    let rest ← replaceItems replacement chosen count (place + 1) rest
    return x :: rest

/-- The rows from a place on with the chosen parts replaced. -/
def replaceRows (replacement : Value → Nat → Except Fault Value) (chosen : List Nat → Bool)
    (count place : Nat) : List (List Value) → Except Fault (List (List Value))
  | [] => .ok []
  | row :: rest => do
    let row ← replaceItems replacement (fun path => chosen (place :: path)) count 0 row
    let rest ← replaceRows replacement chosen count (place + 1) rest
    return row :: rest

end

/-- The settings of a part that `count` containers stand around, for the context and the depth of
the outermost one. -/
def partContext (c : Context) (depth count : Nat) : Context :=
  (c.withMode .math).withDepth (depth + count)

/-- The verbatim text of a part that is formatted on its own. -/
def partText (r : Registry) (c : Context) (depth : Nat) (x : Value) (count : Nat) :
    Except Fault Value := do
  (← format r x (partContext c depth count)).ofPlain?

/-- A container with the chosen parts replaced by their verbatim texts. The container itself is no
part. -/
def replaceParts (r : Registry) (c : Context) (depth : Nat) (chosen : List Nat → Bool) (v : Value) :
    Except Fault Value :=
  replaceIn (partText r c depth) (fun place => !place.isEmpty && chosen place) 0 v

/-! ### Contexts of parts -/

/-- A context with all core settings. -/
def Complete (c : Context) : Prop :=
  ∀ key, (c.get? key).or (Context.default.get? key) = c.get? key

/-- A context under which a value with `count` containers around it is written. -/
structure Within (base : Context) (depth count : Nat) (c : Context) : Prop where
  others : ∀ key, key ≠ "mode" → key ≠ "depth" → c.get? key = base.get? key
  deep : c.depth = .ok (depth + count)

theorem complete_effectiveContext (r : Registry) (v : Value) (settings : Context) :
    Complete (effectiveContext r v settings) := fun key => by
  rw [effectiveContext, OrderedMap.get?_update, OrderedMap.get?_update]
  cases settings.get? key <;> cases (r.kindDefaults v).get? key <;>
    cases Context.default.get? key <;> rfl

theorem Complete.insert {c : Context} (complete : Complete c) (key : String) (v : Value) :
    Complete (c.insert key v) := fun other => by
  by_cases same : other = key
  · rw [same, OrderedMap.get?_insert_self, Option.some_or]
  · rw [OrderedMap.get?_insert_of_ne c v same, complete other]

theorem complete_partContext {c : Context} (complete : Complete c) (depth count : Nat) :
    Complete (partContext c depth count) :=
  (complete.insert _ _).insert _ _

variable {base c d : Context} {depth count : Nat}

theorem within_of_alike (alike : Alike c (partContext base depth count)) :
    Within base depth count c := by
  constructor
  · intro key noMode noDepth
    rw [alike key, partContext, Context.withDepth, Context.withMode,
      OrderedMap.get?_insert_of_ne _ _ noDepth, OrderedMap.get?_insert_of_ne _ _ noMode]
  · rw [alike.depth, partContext, Context.depth_withDepth]

theorem Within.part (within : Within base depth count c) :
    Alike ((c.withMode .math).withDepth (depth + count + 1)) (partContext base depth (count + 1)) :=
  fun key => by
    rw [partContext, Context.withDepth, Context.withDepth, Context.withMode, Context.withMode]
    by_cases isDepth : key = "depth"
    · rw [isDepth, OrderedMap.get?_insert_self, OrderedMap.get?_insert_self]
      rfl
    rw [OrderedMap.get?_insert_of_ne _ _ isDepth, OrderedMap.get?_insert_of_ne _ _ isDepth]
    by_cases isMode : key = "mode"
    · rw [isMode, OrderedMap.get?_insert_self, OrderedMap.get?_insert_self]
    · rw [OrderedMap.get?_insert_of_ne _ _ isMode, OrderedMap.get?_insert_of_ne _ _ isMode,
        within.others key isMode isDepth]

theorem within_base (deep : base.depth = .ok depth) : Within base depth 0 base :=
  ⟨fun _ _ _ => rfl, deep⟩

theorem effectiveContext_fill_alike (r : Registry) (v : Value) (complete : Complete c) :
    Alike ((effectiveContext r v c).fill (r.kindDefaults v))
      (c.fill (r.kindDefaults v)) := fun key => by
  have known := complete key
  rw [OrderedMap.get?_fill, OrderedMap.get?_fill, effectiveContext, OrderedMap.get?_update,
    OrderedMap.get?_update]
  cases same : c.get? key with
  | some v => rfl
  | none =>
    rw [same, Option.none_or] at known
    rw [known]
    cases (r.kindDefaults _).get? key <;> rfl

/-- The defaults of its kind complete the context of a registered value, so what they make of it
decides what is written. -/
theorem write_of_alike_filled (r : Registry) {v : Value} (registered : asRegistered r v = .ok v)
    {d : Context} (alike : Alike (c.fill (r.kindDefaults v)) (d.fill (r.kindDefaults v))) :
    write r v c = write r v d := by
  rw [write, write, budget_of_ok registered, writeWithin, writeWithin, registered]
  simp only [Emission.attempt]
  cases r.resolve v.kind with
  | none => rfl
  | some rule => exact (writeWithin_alike r _).2 rule v _ _ alike

/-- What is written for a registered kind under a complete context is the same at the top. -/
theorem write_effectiveContext (r : Registry) {v : Value} (registered : asRegistered r v = .ok v)
    (complete : Complete c) : write r v (effectiveContext r v c) = write r v c :=
  write_of_alike_filled r registered (effectiveContext_fill_alike r v complete)

/-! ### Elements that are replaced -/

variable {r : Registry}

/-- A value that can be written can also have its chosen parts replaced, and is then written as the
same text. -/
def Replaceable (r : Registry) (replacement : Value → Nat → Except Fault Value) (count : Nat)
    (c : Context) (x : Value) : Prop :=
  ∀ s, write r x c = .text s → ∀ chosen, ∃ y, replaceIn replacement chosen count x = .ok y ∧
    write r y c = .text s

variable {replacement : Value → Nat → Except Fault Value}

theorem replaceItems_written {items : List Value} {texts : List (List Char)}
    (each : ∀ x ∈ items, Replaceable r replacement count c x)
    (separate : items.map (write r · c) = texts.map Emission.text) (chosen : List Nat → Bool)
    (place : Nat) :
    ∃ others, replaceItems replacement chosen count place items = .ok others ∧
      others.map (write r · c) = texts.map Emission.text := by
  induction items generalizing texts place with
  | nil => exact ⟨[], rfl, separate⟩
  | cons x rest ih =>
    obtain ⟨s, more, rfl, alone, later⟩ := List.map_eq_cons_iff.1 separate.symm
    obtain ⟨y, replaced, same⟩ :=
      each x List.mem_cons_self s alone.symm fun path => chosen (place :: path)
    obtain ⟨others, replacedRest, sameRest⟩ :=
      ih (fun x member => each x (List.mem_cons_of_mem _ member)) later.symm (place + 1)
    refine ⟨y :: others, ?_, ?_⟩
    · rw [replaceItems, replaced, replacedRest]
      rfl
    · rw [List.map_cons, List.map_cons, same, sameRest]

theorem replaceRows_written {rows : List (List Value)} {texts : List (List Char)}
    {spaces : Except Fault (List Char)}
    (each : ∀ row ∈ rows, ∀ x ∈ row, Replaceable r replacement count c x)
    (separate : rows.map (fun row => writeRow (write r) c spaces (.ok row)) =
      texts.map Emission.text) (chosen : List Nat → Bool) (place : Nat) :
    ∃ others, replaceRows replacement chosen count place rows = .ok others ∧
      others.map (fun row => writeRow (write r) c spaces (.ok row)) =
        texts.map Emission.text := by
  induction rows generalizing texts place with
  | nil => exact ⟨[], rfl, separate⟩
  | cons row rest ih =>
    obtain ⟨s, more, rfl, alone, later⟩ := List.map_eq_cons_iff.1 separate.symm
    obtain ⟨indentation, cells, indented, elements, rfl⟩ := writeRow_eq_text_iff.1 alone.symm
    obtain ⟨other, replaced, same⟩ := replaceItems_written (each row List.mem_cons_self) elements
      (fun path => chosen (place :: path)) 0
    obtain ⟨others, replacedRest, sameRest⟩ :=
      ih (fun row member => each row (List.mem_cons_of_mem _ member)) later.symm (place + 1)
    have sameRow := writeRow_eq_text_iff.2 ⟨indentation, cells, indented, same, rfl⟩
    refine ⟨other :: others, ?_, ?_⟩
    · rw [replaceRows, replaced, replacedRest]
      rfl
    · rw [List.map_cons, List.map_cons, sameRow, sameRest]

theorem writeVector_replaced {v : Value} {items : List Value} {t : List Char}
    (found : v.items? = .ok items)
    (each : ∀ deep, c.depth = .ok deep →
      ∀ x ∈ items, Replaceable r replacement count (inner c deep) x)
    (written : writeVector (write r) v c = .text t) (chosen : List Nat → Bool) :
    ∃ others, replaceItems replacement chosen count 0 items = .ok others ∧
      ∀ v', v'.items? = .ok others → writeVector (write r) v' c = .text t := by
  obtain ⟨f, spaces, texts, fits, indented, separate, rfl⟩ :=
    (writeVector_eq_text_iff found).1 written
  obtain ⟨others, replaced, same⟩ :=
    replaceItems_written (each f.depth fits.depth) separate chosen 0
  refine ⟨others, replaced, fun v' found' => ?_⟩
  exact (writeVector_eq_text_iff found').2 ⟨f, spaces, texts, fits, indented, same, rfl⟩

theorem writeMatrix_replaced {rows : List (List Value)} {t : List Char}
    (each : ∀ deep, c.depth = .ok deep →
      ∀ row ∈ rows, ∀ x ∈ row, Replaceable r replacement count (inner c deep) x)
    (written : writeMatrix (write r) (.matrix rows) c = .text t) (chosen : List Nat → Bool) :
    ∃ others, replaceRows replacement chosen count 0 rows = .ok others ∧
      writeMatrix (write r) (.matrix others) c = .text t := by
  obtain ⟨f, texts, fits, separate, rfl⟩ := (writeMatrix_eq_text_iff rfl).1 written
  obtain ⟨others, replaced, same⟩ :=
    replaceRows_written (each f.depth fits.depth) separate chosen 0
  exact ⟨others, replaced, (writeMatrix_eq_text_iff rfl).2 ⟨f, texts, fits, same, rfl⟩⟩

theorem replaceIn_chosen {chosen : List Nat → Bool} (first : chosen [] = true) (count : Nat)
    (v : Value) : replaceIn replacement chosen count v = replacement v count := by
  rw [replaceIn.eq_def, if_pos first]

theorem kind_replaceIn {chosen : List Nat → Bool} (first : chosen [] = false) {v y : Value}
    (replaced : replaceIn replacement chosen count v = .ok y) : y.kind = v.kind := by
  rw [replaceIn.eq_def] at replaced
  simp only [first, Bool.false_eq_true, ↓reduceIte] at replaced
  split at replaced
  · obtain ⟨_, -, rfl⟩ := map_eq_ok_iff.1 replaced
    rfl
  · obtain ⟨_, -, rfl⟩ := map_eq_ok_iff.1 replaced
    rfl
  · obtain ⟨_, -, rfl⟩ := map_eq_ok_iff.1 replaced
    rfl
  · cases replaced
    rfl

/-! ### Parts under the built-in rules -/

section

variable (plain : r.IsBuiltin)

include plain

theorem write_partContext (v : Value) (complete : Complete c) :
    write r v (effectiveContext r v c) = write r v c := by
  cases found : r.resolve v.kind with
  | some rule => exact write_effectiveContext r (asRegistered_of_resolve found) complete
  | none =>
    -- Without a rule there are no defaults either, and the kind is mapped or refused.
    refine write_alike r v fun key => ?_
    rw [effectiveContext, OrderedMap.get?_update, OrderedMap.get?_update,
      plain.kindDefaults_of_resolve found, OrderedMap.get?_empty, Option.none_or]
    exact complete key

theorem format_partContext {v : Value} {t : List Char} (complete : Complete base)
    (alike : Alike c (partContext base depth count)) (written : write r v c = .text t) :
    partText r base depth v count = .ok (.verbatim (String.ofList t)) := by
  have whole := complete_partContext complete depth count
  have same : write r v (effectiveContext r v (partContext base depth count)) = .text t := by
    rw [write_partContext plain v whole, ← write_alike r v alike, written]
  have formatted := format_eq_ok_iff.2 ⟨t, same, rfl⟩
  rw [partText, formatted]
  rfl

/-- Parts can be replaced by their texts, wherever they stand. -/
theorem write_replaceIn (complete : Complete base) {v : Value} {chosen : List Nat → Bool}
    {t : List Char} (within : Within base depth count c)
    (alike : chosen [] = true → Alike c (partContext base depth count))
    (written : write r v c = .text t) :
    ∃ y, replaceIn (partText r base depth) chosen count v = .ok y ∧ write r y c = .text t := by
  induction high : v.height using Nat.strongRecOn generalizing v chosen count c t with
  | ind high ih =>
    subst high
    by_cases first : chosen [] = true
    · refine ⟨.verbatim (String.ofList t), ?_, ?_⟩
      · rw [replaceIn_chosen first]
        exact format_partContext plain complete (alike first) written
      · rw [write_verbatim plain, String.toList_ofList]
    -- An element is lower, and has one more container around it.
    have element (deep : Nat) (found : c.depth = .ok deep) (x : Value)
        (lower : x.height < v.height) :
        Replaceable r (partText r base depth) (count + 1) (inner c deep) x := by
      intro s alone chosen
      have same : deep = depth + count := by
        rw [within.deep] at found
        exact (Except.ok.inj found).symm
      have alike : Alike (inner c deep) (partContext base depth (count + 1)) := by
        rw [same]
        exact within.part
      exact ih _ lower (within_of_alike alike) (fun _ => alike) alone rfl
    have lowItem {items : List Value} {x : Value} (member : x ∈ items) :
        x.height < Value.heightAll items + 1 :=
      Nat.lt_succ_of_le (Value.height_le_heightAll member)
    rw [replaceIn.eq_def]
    simp only [first, Bool.false_eq_true, ↓reduceIte]
    cases v with
    | list items =>
      rw [write_list plain] at written
      obtain ⟨others, replaced, same⟩ := writeVector_replaced rfl
        (fun deep found x member => element deep found x (lowItem member)) written chosen
      refine ⟨.list others, map_eq_ok_iff.2 ⟨others, replaced, rfl⟩, ?_⟩
      rw [write_list plain]
      exact same (.list others) rfl
    | tuple items =>
      rw [write_tuple plain] at written
      obtain ⟨others, replaced, same⟩ := writeVector_replaced rfl
        (fun deep found x member => element deep found x (lowItem member)) written chosen
      refine ⟨.tuple others, map_eq_ok_iff.2 ⟨others, replaced, rfl⟩, ?_⟩
      rw [write_tuple plain]
      exact same (.tuple others) rfl
    | matrix rows =>
      rw [write_matrix plain] at written
      have lowCell {row : List Value} {x : Value} (listed : row ∈ rows) (member : x ∈ row) :
          x.height < (Value.matrix rows).height :=
        Nat.lt_of_lt_of_le (lowItem member)
          (Nat.succ_le_succ (Value.heightAll_le_heightRows listed))
      obtain ⟨others, replaced, same⟩ := writeMatrix_replaced (fun deep found row listed x member =>
        element deep found x (lowCell listed member)) written chosen
      refine ⟨.matrix others, map_eq_ok_iff.2 ⟨others, replaced, rfl⟩, ?_⟩
      rw [write_matrix plain]
      exact same
    | _ => exact ⟨_, rfl, written⟩

theorem exists_depth {v : Value} {t : List Char} (container : IsContainer v)
    (written : write r v c = .text t) : ∃ depth, c.depth = .ok depth := by
  cases v with
  | list items =>
    rw [write_list plain] at written
    obtain ⟨f, -, -, fits, -⟩ := (writeVector_eq_text_iff rfl).1 written
    exact ⟨f.depth, fits.depth⟩
  | tuple items =>
    rw [write_tuple plain] at written
    obtain ⟨f, -, -, fits, -⟩ := (writeVector_eq_text_iff rfl).1 written
    exact ⟨f.depth, fits.depth⟩
  | matrix rows =>
    rw [write_matrix plain] at written
    obtain ⟨f, -, fits, -⟩ := (writeMatrix_eq_text_iff rfl).1 written
    exact ⟨f.depth, fits.depth⟩
  | _ => cases container

/-- A container that can be formatted is formatted as the same source if any of its parts, at any
depth, are replaced by what they are formatted as on their own. -/
theorem format_replaceParts {v out : Value} {settings : Context} (container : IsContainer v)
    (formatted : format r v settings = .ok out) (chosen : List Nat → Bool) :
    ∃ depth y, (effectiveContext r v settings).depth = .ok depth ∧
      replaceParts r (effectiveContext r v settings) depth chosen v = .ok y ∧
      format r y settings = .ok out := by
  obtain ⟨t, written, rfl⟩ := format_eq_ok_iff.1 formatted
  obtain ⟨depth, deep⟩ := exists_depth plain container written
  obtain ⟨y, replaced, same⟩ : ∃ y,
      replaceParts r (effectiveContext r v settings) depth chosen v = .ok y ∧
        write r y (effectiveContext r v settings) = .text t :=
    write_replaceIn plain (complete_effectiveContext r v settings) (within_base deep) nofun written
  have kind := kind_replaceIn rfl replaced
  refine ⟨depth, y, deep, replaced, format_eq_ok_iff.2 ⟨t, ?_, rfl⟩⟩
  rw [effectiveContext, plain.kindDefaults_congr kind]
  exact same

end

/-- The built-in registry with a kind of marked raw elements. -/
def marked : Registry :=
  { Registry.builtin with
    lineages := [(.declared "notes" "Marked", [.declared "notes" "Marked", .raw, .object])] }

theorem isBuiltin_marked : marked.IsBuiltin where
  rules := rfl
  defaults := rfl
  lineages kind home := by
    have other := home "notes" "Marked"
    simp [marked, Table.get?, Ne.symm other]

def nested : Value :=
  .list [.object (.declared "notes" "Marked") (some (.raw "x" "py")) none,
    .matrix [[.int 1, .str "a\""], [.null, .tuple [.bool true]]]]

theorem format_nested :
    ∃ out depth y, format marked nested OrderedMap.empty = .ok out ∧
      replaceParts marked (effectiveContext marked nested OrderedMap.empty) depth
        (fun place => place = [0] || place = [1, 0, 1] || place = [1, 1, 1, 0]) nested = .ok y ∧
      format marked y OrderedMap.empty = .ok out := by
  obtain ⟨out, formatted⟩ :=
    exists_eq_ok (x := format marked nested OrderedMap.empty) (by decide +kernel)
  obtain ⟨depth, y, -, replaced, same⟩ :=
    format_replaceParts isBuiltin_marked (v := nested) trivial formatted
      (fun place => place = [0] || place = [1, 0, 1] || place = [1, 1, 1, 0])
  exact ⟨out, depth, y, formatted, replaced, same⟩

end TypstMarkup.Markup
