import TypstMarkup.Proofs.Configuration.Layers
import TypstMarkup.Proofs.Markup.CoreSettings

/-!
The settings of a loaded configuration. Whatever files it comes from, each core setting is there and
has the kind of value that its accessor expects, and every other setting is a text, a number or a
truth value.
-/
namespace TypstMarkup.Configuration

open Markup (coreKeys)

inductive Accepted (key : String) : Value → Prop
  | mode (named : key = "mode") (m : Mode) : Accepted key (.mode m)
  | inline (named : key = "inline") (b : Bool) : Accepted key (.bool b)
  | indent (named : key = "indent") (text : String) : Accepted key (.str text)
  | depth (named : key = "depth") (n : Nat) : Accepted key (.int n)
  | text (other : key ∉ coreKeys) (text : String) : Accepted key (.str text)
  | integer (other : key ∉ coreKeys) (n : Int) : Accepted key (.int n)
  | float (other : key ∉ coreKeys) (x : Binary64) : Accepted key (.float x)
  | boolean (other : key ∉ coreKeys) (b : Bool) : Accepted key (.bool b)

theorem Accepted.mode_eq {v : Value} (accepted : Accepted "mode" v) : ∃ m, v = .mode m := by
  cases accepted with
  | mode _ m => exact ⟨m, rfl⟩
  | inline named _ | indent named _ | depth named _ => exact absurd named (by decide)
  | text other _ | integer other _ | float other _ | boolean other _ =>
    exact absurd (by decide) other

theorem Accepted.inline_eq {v : Value} (accepted : Accepted "inline" v) : ∃ b, v = .bool b := by
  cases accepted with
  | inline _ b => exact ⟨b, rfl⟩
  | mode named _ | indent named _ | depth named _ => exact absurd named (by decide)
  | text other _ | integer other _ | float other _ | boolean other _ =>
    exact absurd (by decide) other

theorem Accepted.indent_eq {v : Value} (accepted : Accepted "indent" v) :
    ∃ text, v = .str text := by
  cases accepted with
  | indent _ text => exact ⟨text, rfl⟩
  | mode named _ | inline named _ | depth named _ => exact absurd named (by decide)
  | text other _ | integer other _ | float other _ | boolean other _ =>
    exact absurd (by decide) other

theorem Accepted.depth_eq {v : Value} (accepted : Accepted "depth" v) :
    ∃ n : Nat, v = .int n := by
  cases accepted with
  | depth _ n => exact ⟨n, rfl⟩
  | mode named _ | inline named _ | indent named _ => exact absurd named (by decide)
  | text other _ | integer other _ | float other _ | boolean other _ =>
    exact absurd (by decide) other

theorem accepted_of_setting? {source key : String} {node : Toml.Node} {v : Value}
    (read : setting? source key node.toValue = .ok v) : Accepted key v := by
  unfold setting? at read
  split at read
  · split at read
    · cases read
      exact .mode rfl _
    · cases read
  · split at read
    · cases read
      exact .inline rfl _
    · cases read
  · split at read
    · rename_i isText
      cases read
      cases node with
      | text s => exact .indent rfl s
      | _ => cases isText
    · cases read
  · split at read
    · rename_i n isInt
      split at read
      · rename_i positive
        cases read
        cases node with
        | integer m =>
          cases isInt
          obtain ⟨k, rfl⟩ := Int.eq_ofNat_of_zero_le positive
          exact .depth rfl k
        | _ => cases isInt
      · cases read
    · cases read
  · rename_i noMode noInline noIndent noDepth
    have other : key ∉ coreKeys := by
      simp only [coreKeys, List.mem_cons, List.not_mem_nil, or_false, not_or]
      exact ⟨noMode, noInline, noIndent, noDepth⟩
    cases node with
    | text s => cases read; exact .text other s
    | integer n => cases read; exact .integer other n
    | float x => cases read; exact .float other x
    | boolean b => cases read; exact .boolean other b
    | _ => cases read

/-! ### Tables of files -/

theorem toEntries_eq_map (table : Toml.Table) :
    Toml.Node.toEntries table = table.map fun entry => (.str entry.1, entry.2.toValue) := by
  induction table with
  | nil => rfl
  | cons entry rest ih => rw [Toml.Node.toEntries, ih, List.map_cons]

/-- Looking a key up in a table and in its entries is the same. -/
theorem entryAt?_toEntries (table : Toml.Table) (key : String) :
    entryAt? (Toml.Node.toEntries table) key = (table.get? key).map Toml.Node.toValue := by
  rw [entryAt?, toEntries_eq_map, List.find?_map, Toml.Table.get?, Option.map_map, Option.map_map]
  rfl

/-- Entries that come from a table of a document. -/
def OfTable (entries : List (Value × Value)) : Prop :=
  ∃ table : Toml.Table, entries = Toml.Node.toEntries table

theorem ofTable_of_toValue {node : Toml.Node} {inner : List (Value × Value)}
    (same : node.toValue = .dict inner) : OfTable inner := by
  cases node with
  | table entries | inline entries => cases same; exact ⟨entries, rfl⟩
  | _ => cases same

theorem OfTable.entryAt? {entries inner : List (Value × Value)} {key : String}
    (made : OfTable entries) (found : entryAt? entries key = some (.dict inner)) :
    OfTable inner := by
  obtain ⟨table, rfl⟩ := made
  rw [entryAt?_toEntries] at found
  obtain ⟨node, -, same⟩ := Option.map_eq_some_iff.1 found
  exact ofTable_of_toValue same

theorem OfTable.tableAt? {entries inner : List (Value × Value)} {key : String}
    (made : OfTable entries) (found : tableAt? entries key = .ok inner) : OfTable inner := by
  unfold Configuration.tableAt? at found
  split at found
  · cases found
    exact ⟨[], rfl⟩
  · cases found
    exact ⟨[], rfl⟩
  · rename_i present
    cases found
    exact made.entryAt? present
  · cases found

theorem OfTable.valueAt? {entries inner : List (Value × Value)} {path : List String}
    (made : OfTable entries) (found : valueAt? entries path = some (.dict inner)) :
    OfTable inner := by
  induction path generalizing entries with
  | nil =>
    cases found
    exact made
  | cons key path ih =>
    unfold Configuration.valueAt? at found
    split at found
    · rename_i present
      exact ih (made.entryAt? present) found
    · rename_i v noTable present
      split at found
      · cases found
        exact absurd rfl (noTable inner)
      · cases found
    · cases found

theorem ofTable_of_fileTable? {w : Workplace} {p : Path} {table : List (Value × Value)}
    (read : fileTable? w p = .ok table) : OfTable table := by
  unfold fileTable? at read
  split at read
  · cases read
  · split at read
    · cases read
      exact ⟨_, rfl⟩
    · cases read
    · cases read

/-! ### Loaded settings -/

theorem get?_single {α : Type} {entry : String × α} {key : String} {v : α}
    (found : (OrderedMap.ofList [entry]).get? key = some v) : entry = (key, v) := by
  have same : (List.find? (fun e => e.1 == key) [entry]).map Prod.snd = some v := found
  obtain ⟨e, first, rfl⟩ := Option.map_eq_some_iff.1 same
  have named : e.1 = key := by simpa using List.find?_some first
  rw [← named]
  exact (List.mem_singleton.1 (List.mem_of_find?_eq_some first)).symm

theorem mem_of_get?_ofList {α : Type} {entries : List (String × α)} {key : String} {v : α}
    (found : (OrderedMap.ofList entries).get? key = some v) : (key, v) ∈ entries := by
  rw [OrderedMap.ofList, OrderedMap.insertAll_eq_foldl_update,
    OrderedMap.get?_foldl_update] at found
  obtain ⟨layer, listed, present⟩ := lastOf_mem found
  rcases List.mem_cons.1 listed with rfl | single
  · cases present
  · obtain ⟨entry, member, rfl⟩ := List.mem_map.1 single
    rwa [get?_single present] at member

theorem accepted_of_settings? {source : String} {table : List (Value × Value)} {s : Context}
    (made : OfTable table) (read : settings? source table = .ok s) {key : String} {v : Value}
    (present : s.get? key = some v) : Accepted key v := by
  obtain ⟨entries, rfl⟩ := made
  obtain ⟨checked, each, same⟩ := bind_eq_ok_iff.1 read
  cases same
  obtain ⟨⟨k, u⟩, member, found⟩ := Value.exists_of_mem_mapM each (mem_of_get?_ofList present)
  rw [toEntries_eq_map] at member
  obtain ⟨⟨name, node⟩, -, same⟩ := List.mem_map.1 member
  cases same
  obtain ⟨accepted, checkedSetting, same⟩ := bind_eq_ok_iff.1 found
  cases same
  exact accepted_of_setting? checkedSetting

theorem Contributes.accepted {w : Workplace} {p : Path} {d : Draft}
    (contributes : Contributes w p (some d)) {key : String} {v : Value}
    (present : d.settings.get? key = some v) : Accepted key v := by
  have made : ∃ table, OfTable table ∧ d.Reads w p table := by
    cases contributes with
    | own _ read reads => exact ⟨_, ofTable_of_fileTable? read, reads⟩
    | shared _ read found _ reads =>
      exact ⟨_, (ofTable_of_fileTable? read).valueAt? found, reads⟩
  obtain ⟨table, made, ⟨inner, atSettings, read⟩, -, -⟩ := made
  exact accepted_of_settings? (made.tableAt? atSettings) read present

theorem accepted_default {key : String} {v : Value}
    (present : Context.default.get? key = some v) : Accepted key v := by
  have listed := mem_of_get?_ofList present
  simp only [List.mem_cons, List.not_mem_nil, or_false, Prod.mk.injEq] at listed
  rcases listed with ⟨rfl, rfl⟩ | ⟨rfl, rfl⟩ | ⟨rfl, rfl⟩ | ⟨rfl, rfl⟩
  · exact .mode rfl .markup
  · exact .inline rfl true
  · exact .indent rfl "    "
  · exact .depth rfl 0

section

variable {w : Workplace} {start : Path} {explicit : List Path} {discovered : Bool}
  {c : Configuration} (loaded : load? w start explicit discovered = .ok c)

include loaded

theorem get?_settings_load? : ∃ layers : List Draft,
    (∀ d ∈ layers, ∃ p, Contributes w p (some d)) ∧
      ∀ key, c.settings.get? key =
        lastOf (fun d : Draft => d.settings.get? key) (Draft.defaults :: layers) := by
  obtain ⟨parts, contribute, rfl⟩ := load?_eq_ok_iff.1 loaded
  refine ⟨parts.reduceOption, fun d listed => ?_, fun key => ?_⟩
  · obtain ⟨p, -, contributes⟩ := exists_contributes contribute listed
    exact ⟨p, contributes⟩
  · rw [Draft.freeze, Draft.settings_foldl_merge, OrderedMap.get?_foldl_update]
    exact lastOf_map (f := Draft.settings) (Draft.defaults :: parts.reduceOption)

/-- Under a key, a loaded configuration holds nothing but what is accepted there. -/
theorem accepted_of_load? {key : String} {v : Value} (present : c.settings.get? key = some v) :
    Accepted key v := by
  obtain ⟨layers, contribute, merged⟩ := get?_settings_load? loaded
  rw [merged] at present
  obtain ⟨d, listed, gives⟩ := lastOf_mem present
  rcases List.mem_cons.1 listed with rfl | listed
  · exact accepted_default gives
  · obtain ⟨p, contributes⟩ := contribute d listed
    exact contributes.accepted gives

/-- A loaded configuration has all core settings. -/
theorem exists_core_setting {key : String} (core : key ∈ coreKeys) :
    ∃ v, c.settings.get? key = some v := by
  obtain ⟨layers, -, merged⟩ := get?_settings_load? loaded
  rw [merged, lastOf_cons]
  have known : ∀ key ∈ coreKeys, (Context.default.get? key).isSome = true := by decide
  obtain ⟨v, found⟩ := Option.isSome_iff_exists.1 (known key core)
  have present : Draft.defaults.settings.get? key = some v := found
  rw [present]
  cases lastOf (fun d : Draft => d.settings.get? key) layers with
  | none => exact ⟨v, rfl⟩
  | some u => exact ⟨u, rfl⟩

end

end TypstMarkup.Configuration
