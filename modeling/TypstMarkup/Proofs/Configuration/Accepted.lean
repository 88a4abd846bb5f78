import TypstMarkup.Proofs.Configuration.Settings
import TypstMarkup.Proofs.Markup.Reads
import TypstMarkup.Proofs.Markup.Unsupported

/-!
Formatting with what a configuration accepts. The core settings of a loaded configuration never
stand in the way. All others pass as texts, numbers or truth values, and rules are more particular:
parameters must be texts, and raw elements want an integer of at least three and a truth value.
-/
namespace TypstMarkup

open TypstMarkup.Configuration (Accepted load?)

namespace Markup

open Emission

/-- Values that no rule accepts under a key. -/
inductive Unusable (key : String) (v : Value) : Prop
  | parameter (known : key ∈ vectorParameters ++ matrixParameters) (noText : v.text? = none)
  | backticks (named : key = "backticks") (few : ∀ n, Context.properInt? v = some n → n < 3)
  | block (named : key = "block") (other : ∀ b, v ≠ .bool b)

theorem Unusable.notMem_coreKeys {key : String} {v : Value} (unusable : Unusable key v) :
    key ∉ coreKeys := by
  have others : ∀ key ∈ vectorParameters ++ matrixParameters, key ∉ coreKeys := by decide
  cases unusable with
  | parameter known _ => exact others key known
  | backticks named _ =>
    rw [named]
    decide
  | block named _ =>
    rw [named]
    decide

/-! ### Contexts that arise from settings -/

/-- A context whose core settings can be read, and whose other settings are given ones or defaults
of raw elements. -/
structure Follows (s c : Context) : Prop where
  mode : ∃ m, c.mode = .ok m
  inline : ∃ b, c.inline = .ok b
  indent : ∃ unit, c.indent = .ok unit
  depth : ∃ n, c.depth = .ok n
  others : ∀ key ∉ coreKeys, ∀ v, c.get? key = some v →
    s.get? key = some v ∨ rawDefaults.get? key = some v

/-- The failures that settings lead to: refusals of unusable values. -/
def FromSettings (s : Context) (f : Fault) : Prop :=
  ∀ key found expected, f = .settingType key found expected →
    s.get? key = some found ∧ Unusable key found

theorem fromSettings_of_not_documented {s : Context} {f : Fault} (other : ¬Documented f) :
    FromSettings s f := by
  rintro key found expected rfl
  exact absurd (.inr ⟨key, found, expected, rfl⟩) other

theorem fromSettings_unsupportedKind (s : Context) (kind : Kind) :
    FromSettings s (.unsupportedKind kind) := by
  rintro key found expected ⟨⟩

theorem fromSettings_ofSetting {s : Context} {key expected : String} {v : Value}
    (given : s.get? key = some v) (unusable : Unusable key v) :
    FromSettings s (.ofSetting key v expected) := by
  rintro key' found expected' same
  unfold Fault.ofSetting at same
  split at same
  · cases same
  · cases same
    exact ⟨given, unusable⟩

section

variable {r : Registry} (plain : r.IsBuiltin)

include plain

/-- The defaults of a kind are those of raw elements or none. -/
theorem kindDefaults_eq_or (v : Value) :
    r.kindDefaults v = rawDefaults ∨ r.kindDefaults v = .empty := by
  rw [Registry.kindDefaults, plain.defaults]
  split
  · rename_i supplier found
    obtain ⟨k, -, listed⟩ := Table.mem_of_firstOn found
    cases List.mem_singleton.1 listed
    exact .inl rfl
  · exact .inr rfl

theorem get?_kindDefaults {v w : Value} {key : String}
    (found : (r.kindDefaults v).get? key = some w) : rawDefaults.get? key = some w := by
  rcases kindDefaults_eq_or plain v with raw | none
  · rwa [raw] at found
  · rw [none] at found
    cases found

theorem follows_settingsFor {s c : Context} (follows : Follows s c) (v : Value) :
    Follows s (settingsFor r v c) := by
  obtain ⟨⟨m, mode⟩, ⟨b, inline⟩, ⟨unit, indent⟩, ⟨n, depth⟩, others⟩ := follows
  refine ⟨⟨m, mode_fill _ mode⟩, ⟨b, inline_fill _ inline⟩, ⟨unit, indent_fill _ indent⟩,
    ⟨n, depth_fill _ depth⟩, fun key other w found => ?_⟩
  rw [settingsFor, OrderedMap.get?_fill, Option.or_eq_some_iff] at found
  rcases found with given | ⟨-, default⟩
  · exact others key other w given
  · exact .inr (get?_kindDefaults plain default)

theorem follows_effectiveContext {s : Context} (accepted : ∀ key v, s.get? key = some v →
    Accepted key v) (present : ∀ key ∈ coreKeys, ∃ v, s.get? key = some v) (v : Value) :
    Follows s (effectiveContext r v s) := by
  have kept {key : String} (core : key ∈ coreKeys) :
      ∃ w, Accepted key w ∧ (effectiveContext r v s).get? key = some w := by
    obtain ⟨w, found⟩ := present key core
    refine ⟨w, accepted key w found, ?_⟩
    rw [effectiveContext, OrderedMap.get?_update, found, Option.some_or]
  constructor
  · obtain ⟨w, accepted, found⟩ := kept (by decide : "mode" ∈ coreKeys)
    obtain ⟨m, rfl⟩ := accepted.mode_eq
    exact ⟨m, by rw [Context.mode, found]⟩
  · obtain ⟨w, accepted, found⟩ := kept (by decide : "inline" ∈ coreKeys)
    obtain ⟨b, rfl⟩ := accepted.inline_eq
    exact ⟨b, by rw [Context.inline, found]⟩
  · obtain ⟨w, accepted, found⟩ := kept (by decide : "indent" ∈ coreKeys)
    obtain ⟨text, rfl⟩ := accepted.indent_eq
    exact ⟨text.toList, by rw [Context.indent, Context.found, found]; rfl⟩
  · obtain ⟨w, accepted, found⟩ := kept (by decide : "depth" ∈ coreKeys)
    obtain ⟨n, rfl⟩ := accepted.depth_eq
    refine ⟨n, ?_⟩
    rw [Context.depth, Context.found, found]
    exact if_pos (Int.natCast_nonneg n)
  · intro key other w found
    rw [effectiveContext, OrderedMap.get?_update, OrderedMap.get?_update,
      get?_default_of_notMem other, Option.or_none, Option.or_eq_some_iff] at found
    rcases found with given | ⟨-, default⟩
    · exact .inl given
    · exact .inr (get?_kindDefaults plain default)

end

theorem follows_inner {s c : Context} (follows : Follows s c) (depth : Nat) :
    Follows s (inner c depth) := by
  have same (key : String) (noMode : key ≠ "mode") (noDepth : key ≠ "depth") :=
    get?_inner_of_ne c depth noMode noDepth
  obtain ⟨b, inline⟩ := follows.inline
  obtain ⟨unit, indent⟩ := follows.indent
  refine ⟨⟨.math, mode_inner c depth⟩, ⟨b, ?_⟩, ⟨unit, ?_⟩,
    ⟨depth + 1, Context.depth_withDepth _ _⟩, fun key other v found => ?_⟩
  · rw [Context.inline_congr (same _ (by decide) (by decide)), inline]
  · rw [indent_inner, indent]
  · have different : ∀ k ∈ ["mode", "depth"], key ≠ k := by
      rintro k known rfl
      exact other ((by decide : ["mode", "depth"] ⊆ coreKeys) known)
    rw [same key (different _ (by decide)) (different _ (by decide))] at found
    exact follows.others key other v found

/-! ### Writing -/

section

variable {s c : Context} {f : Fault}

theorem fromSettings_parameter (follows : Follows s c) {key : String}
    (known : key ∈ vectorParameters ++ matrixParameters) (failed : c.parameter key = .error f) :
    FromSettings s f := by
  have other : ∀ key ∈ vectorParameters ++ matrixParameters,
      key ∉ coreKeys ∧ key ∉ rawDefaults.entries.map Prod.fst := by decide
  unfold Context.parameter at failed
  split at failed
  · cases failed
  · rename_i v present
    split at failed
    · cases failed
    · rename_i noText
      cases failed
      rcases follows.others key (other key known).1 v present with given | default
      · exact fromSettings_ofSetting given (.parameter known noText)
      · rw [OrderedMap.get?, OrderedMap.find?_eq_none_of_notMem (other key known).2] at default
        cases default

variable {r : Registry} (plain : r.IsBuiltin)

include plain

/-- Raw elements look a setting up where their default stands in for it if it is absent. -/
theorem get?_settingsFor_raw (follows : Follows s c) {v default : Value} {key : String}
    (found : r.resolve v.kind = some (.builtin .raw)) (other : key ∉ coreKeys)
    (standsIn : rawDefaults.get? key = some default) :
    ∃ w, (settingsFor r v c).get? key = some w ∧ (s.get? key = some w ∨ w = default) := by
  rw [settingsFor, kindDefaults_of_raw plain found, OrderedMap.get?_fill, standsIn]
  cases present : c.get? key with
  | none => exact ⟨default, rfl, .inr rfl⟩
  | some w =>
    refine ⟨w, rfl, (follows.others key other w present).imp_right fun same => ?_⟩
    exact Option.some.inj (same.symm.trans standsIn)

theorem fromSettings_backticks (follows : Follows s c) {v : Value}
    (found : r.resolve v.kind = some (.builtin .raw))
    (failed : backticks (settingsFor r v c) = .error f) : FromSettings s f := by
  obtain ⟨w, present, given | rfl⟩ := get?_settingsFor_raw plain follows found
    (by decide : "backticks" ∉ coreKeys) rfl
  · rw [backticks, Context.found, present, Option.getD_some] at failed
    split at failed
    · rename_i n number
      split at failed
      · cases failed
      · rename_i few
        cases failed
        refine fromSettings_ofSetting given (.backticks rfl fun m number' => ?_)
        rw [number] at number'
        cases number'
        exact not_le.1 few
    · rename_i noNumber
      cases failed
      refine fromSettings_ofSetting given (.backticks rfl fun m number => ?_)
      rw [noNumber] at number
      cases number
  · rw [backticks, Context.found, present] at failed
    cases failed

theorem fromSettings_block (follows : Follows s c) {v : Value}
    (found : r.resolve v.kind = some (.builtin .raw))
    (failed : isBlock (settingsFor r v c) = .error f) : FromSettings s f := by
  obtain ⟨w, present, given | rfl⟩ := get?_settingsFor_raw plain follows found
    (by decide : "block" ∉ coreKeys) rfl
  · rw [isBlock, Context.found, present, Option.getD_some] at failed
    split at failed
    · cases failed
    · rename_i noTruth
      cases failed
      refine fromSettings_ofSetting given (.block rfl fun b same => ?_)
      exact noTruth b (congrArg some same)
  · rw [isBlock, present] at failed
    cases failed

theorem fromSettings_unread (follows : Follows s c) {shown : Value} {rule : BuiltinRule}
    (found : r.resolve shown.kind = some (.builtin rule))
    (unread : Unread rule (settingsFor r shown c) f) : FromSettings s f := by
  obtain ⟨⟨m, mode⟩, ⟨b, inline⟩, ⟨unit, indent⟩, ⟨n, depth⟩, -⟩ :=
    follows_settingsFor plain follows shown
  cases unread with
  | mode failed =>
    rw [mode] at failed
    cases failed
  | pad failed =>
    obtain ⟨pad, read⟩ := exists_pad mode inline
    rw [read] at failed
    cases failed
  | indent failed =>
    rw [indent] at failed
    cases failed
  | depth failed =>
    rw [depth] at failed
    cases failed
  | backticks raw failed =>
    subst raw
    exact fromSettings_backticks plain follows found failed
  | block raw failed =>
    subst raw
    exact fromSettings_block plain follows found failed

theorem fromSettings_obstacle (follows : Follows s c) {shown : Value} {rule : BuiltinRule}
    (obstacle : Obstacle shown (settingsFor r shown c) f rule) : FromSettings s f := by
  cases obstacle with
  | unfit unfit => exact fromSettings_of_not_documented unfit.operational.not_documented
  | limit limit => exact fromSettings_of_not_documented limit.operational.not_documented
  | bytes _ _ failed =>
    subst failed
    exact fromSettings_unsupportedKind s .bytes
  | parameter _ known failed =>
    exact fromSettings_parameter (follows_settingsFor plain follows shown) known failed

/-- Whatever is written, a refused setting is a given one with an unusable value. -/
theorem write_fromSettings (v : Value) {c : Context} (follows : Follows s c) :
    (write r v c).FailsOnly (FromSettings s) := by
  induction v using element_induction plain generalizing c with
  | step v ih =>
    apply Guarded.failsOnly
    · apply write_guarded plain
      · intro f failed
        rcases asRegistered_eq_error failed with ⟨kind, rfl⟩ | ⟨_, _, items, -, failed⟩
        · exact fromSettings_unsupportedKind s kind
        · exact fromSettings_of_not_documented
            (isOperation_matrixRows? _ _ failed).not_documented
      · exact fromSettings_unsupportedKind s
      · exact fun shown rule _ f obstacle => fromSettings_obstacle plain follows obstacle
      · exact fun shown rule _ n _ f failed =>
          fromSettings_of_not_documented
            (isOperation_integerText _ _ failed).not_documented
      · intro shown rule applies x member depth unit _ _
        exact ih shown rule x applies member
          (follows_inner (follows_settingsFor plain follows shown) depth)
    · rintro f ⟨shown, rule, applies, unread⟩
      exact fromSettings_unread plain follows applies.found unread

end

/-! ### Formatting -/

section

variable {r : Registry} (plain : r.IsBuiltin) {s : Context}

/-- Every key has an acceptable value that rules can use. -/
theorem exists_usable (key : String) :
    ∃ w, (key ∉ coreKeys → Accepted key w) ∧ ¬Unusable key w := by
  by_cases fence : key = "backticks"
  · refine ⟨.int 3, fun other => .integer other 3, fun unusable => ?_⟩
    subst fence
    cases unusable with
    | parameter known _ => exact absurd known (by decide)
    | backticks _ few => exact absurd (few 3 rfl) (by decide)
    | block named _ => exact absurd named (by decide)
  by_cases layout : key = "block"
  · refine ⟨.bool false, fun other => .boolean other false, fun unusable => ?_⟩
    subst layout
    cases unusable with
    | parameter known _ => exact absurd known (by decide)
    | backticks named _ => exact fence named
    | block _ other => exact other false rfl
  · refine ⟨.str "", fun other => .text other "", fun unusable => ?_⟩
    cases unusable with
    | parameter _ noText => cases noText
    | backticks named _ => exact fence named
    | block named _ => exact layout named

/-- Contexts agree for a value if they agree except under a key that is documented for nothing in
it. -/
theorem agreeFor_insert {v : Value} {key : String} (w : Value)
    (silent : ∀ x, Occurs r v x → key ∉ documentedFor r x) :
    AgreeFor r v (effectiveContext r v s) (effectiveContext r v (s.insert key w)) := by
  intro x occurs other listed
  have different : other ≠ key := by
    rintro rfl
    exact silent x occurs listed
  rw [effectiveContext, effectiveContext, OrderedMap.get?_update,
    OrderedMap.get?_update _ (s.insert _ _), OrderedMap.get?_insert_of_ne _ _ different]

include plain

theorem fromSettings_of_failed (accepted : ∀ key v, s.get? key = some v → Accepted key v)
    (present : ∀ key ∈ coreKeys, ∃ v, s.get? key = some v) {v : Value} {f : Fault}
    (failed : (write r v (effectiveContext r v s)).fault = some f) : FromSettings s f :=
  write_fromSettings plain v (follows_effectiveContext plain accepted present v) f failed

/-- A setting is refused only if it is documented for something that occurs in the value: under any
other key, a usable value would be refused as well. -/
theorem exists_documented_of_failed
    (accepted : ∀ key v, s.get? key = some v → Accepted key v)
    (present : ∀ key ∈ coreKeys, ∃ v, s.get? key = some v) {v found : Value} {key expected : String}
    (failed : (write r v (effectiveContext r v s)).fault = some (.settingType key found expected)) :
    ∃ x, Occurs r v x ∧ key ∈ documentedFor r x := by
  by_contra silent
  push Not at silent
  obtain ⟨-, unusable⟩ := fromSettings_of_failed plain accepted present failed _ _ _ rfl
  have other := unusable.notMem_coreKeys
  obtain ⟨w, acceptable, usable⟩ := exists_usable key
  rw [write_congr_of_documented plain (agreeFor_insert w silent)] at failed
  have kept {k : String} (different : k ≠ key) : (s.insert key w).get? k = s.get? k :=
    OrderedMap.get?_insert_of_ne s w different
  have replaced : ∀ k u, (s.insert key w).get? k = some u → Accepted k u := by
    intro k u found
    by_cases same : k = key
    · subst same
      rw [OrderedMap.get?_insert_self] at found
      cases found
      exact acceptable other
    · exact accepted k u (kept same ▸ found)
  have there : ∀ k ∈ coreKeys, ∃ u, (s.insert key w).get? k = some u := by
    intro k core
    rw [kept (ne_of_mem_of_not_mem core other)]
    exact present k core
  obtain ⟨given, refused⟩ := fromSettings_of_failed plain replaced there failed _ _ _ rfl
  rw [OrderedMap.get?_insert_self] at given
  cases given
  exact usable refused

end

end Markup

namespace Configuration

open Markup

/-- What a configuration accepts can be formatted with, apart from values that no rule can use under
their key: such a value is refused if the key is documented for something in the formatted value. -/
theorem refused_setting_is_unusable {w : Workplace} {start : Path} {explicit : List Path}
    {discovered : Bool} {c : Configuration} (loaded : load? w start explicit discovered = .ok c)
    {r : Registry} (plain : r.IsBuiltin) {v found : Value} {key expected : String}
    (failed : format r v c.settings = .error (.settingType key found expected)) :
    c.settings.get? key = some found ∧ Accepted key found ∧ Unusable key found ∧
      ∃ x, Occurs r v x ∧ key ∈ documentedFor r x := by
  obtain ⟨streamed, stopped⟩ := renderText_eq_error_iff.1 (map_eq_error_iff.1 failed)
  have fault := congrArg Emission.fault stopped
  have accepted : ∀ key v, c.settings.get? key = some v → Accepted key v :=
    fun key v => accepted_of_load? loaded
  have present : ∀ key ∈ coreKeys, ∃ v, c.settings.get? key = some v :=
    fun key => exists_core_setting loaded
  obtain ⟨given, unusable⟩ := fromSettings_of_failed plain accepted present fault _ _ _ rfl
  exact ⟨given, accepted key found given, unusable,
    exists_documented_of_failed plain accepted present fault⟩

/-- A folder with a number for the delimiters of vectors. -/
def numbered : Workplace where
  files := { texts := [(["home", "typstry.toml"], "[settings]\ndelim = 3\n")] }
  folder := ["home"]
  environment := .empty

/-- The key of the setting that a failure is about. -/
def refusedKey? : Fault → Option String
  | .settingType key _ _ => some key
  | _ => none

theorem exists_numbered : ∃ c found expected, load? numbered ⟨0, []⟩ [] true = .ok c ∧
    format .builtin (.list [.int 1]) c.settings = .error (.settingType "delim" found expected) := by
  obtain ⟨c, loaded⟩ := exists_eq_ok
    (by decide +kernel : (load? numbered ⟨0, []⟩ [] true).toBool = true)
  have refused : ((load? numbered ⟨0, []⟩ [] true).toOption.bind fun c =>
      (write .builtin (.list [.int 1])
        (effectiveContext .builtin (.list [.int 1]) c.settings)).fault.bind refusedKey?) =
      some "delim" := by decide +kernel
  rw [loaded, Except.toOption, Option.bind_some] at refused
  obtain ⟨f, fault, about⟩ := Option.bind_eq_some_iff.1 refused
  cases f with
  | settingType key found expected =>
    cases about
    refine ⟨c, found, expected, loaded, map_eq_error_iff.2 (renderText_eq_error_iff.2 ?_)⟩
    exact ⟨_, congrArg (Emission.mk _) fault⟩
  | _ => cases about

theorem refused_setting_is_unusable_number : Registry.builtin.IsBuiltin ∧
    ∃ c found expected, load? numbered ⟨0, []⟩ [] true = .ok c ∧
      format .builtin (.list [.int 1]) c.settings = .error (.settingType "delim" found expected) ∧
      c.settings.get? "delim" = some found ∧ Accepted "delim" found ∧ Unusable "delim" found ∧
      ∃ x, Occurs .builtin (.list [.int 1]) x ∧ "delim" ∈ documentedFor .builtin x := by
  obtain ⟨c, found, expected, loaded, failed⟩ := exists_numbered
  exact ⟨isBuiltin_builtin, c, found, expected, loaded, failed,
    refused_setting_is_unusable loaded isBuiltin_builtin failed⟩

/-- Numbers are accepted for the parameters of vectors, but vectors cannot be written with them. -/
theorem accepted_number_is_refused :
    ¬∀ (w : Workplace) (start : Path) (explicit : List Path) (discovered : Bool)
        (c : Configuration) (v : Value), load? w start explicit discovered = .ok c →
      ∀ key found expected,
        format .builtin v c.settings ≠ .error (.settingType key found expected) := by
  intro closed
  obtain ⟨c, found, expected, loaded, failed⟩ := exists_numbered
  exact closed _ _ _ _ c _ loaded _ found expected failed

end Configuration

end TypstMarkup
