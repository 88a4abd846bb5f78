import TypstMarkup.Proofs.Markup.Composed

/-!
Arrays without a rule of their own. They are formatted like the list or the matrix they stand for,
under the global defaults changed by the settings given: the defaults of the list or the matrix only
complete these, while for the list or the matrix itself they replace global defaults. An array that
stands for another one is refused.
-/
namespace TypstMarkup.Markup

open Context (Alike)

/-- What an array stands for by its number of dimensions: its items, or the matrix of them. -/
def standsFor? (dimensions items : Value) : Option (Except Fault Value) :=
  if dimensions.same (.int 1) then some (.ok items)
  else if dimensions.same (.int 2) then some (items.matrixRows?.map .matrix)
  else none

theorem standsFor?_one (items : Value) : standsFor? (.int 1) items = some (.ok items) :=
  if_pos (by decide +kernel)

theorem standsFor?_two (items : Value) :
    standsFor? (.int 2) items = some (items.matrixRows?.map .matrix) := by
  rw [standsFor?, if_neg (by decide +kernel), if_pos (by decide +kernel)]

/-! ### Kinds without registrations -/

/-- Neither a kind nor any kind it belongs to has a rule or defaults. -/
structure Registry.Untouched (r : Registry) (kind : Kind) : Prop where
  rules : ∀ k ∈ r.searchPath kind, r.rules.get? k = none
  defaults : ∀ k ∈ r.searchPath kind, r.defaults.get? k = none

namespace Registry.Untouched

variable {r : Registry} {kind : Kind} (untouched : r.Untouched kind)

include untouched

theorem resolve_eq_none : r.resolve kind = none :=
  List.findSome?_eq_none_iff.2 untouched.rules

theorem kindDefaults_eq_empty {v : Value} (same : v.kind = kind) :
    r.kindDefaults v = OrderedMap.empty := by
  have none : r.defaults.firstOn (r.searchPath kind) = none :=
    List.findSome?_eq_none_iff.2 untouched.defaults
  rw [kindDefaults, same, none]

theorem addSupplier {other : Kind} (elsewhere : other ∉ r.searchPath kind) (supplier : Supplier) :
    (r.addSupplier other supplier).Untouched kind where
  rules := untouched.rules
  defaults k member := by
    rw [Registry.addSupplier, Table.get?_register,
      if_neg (ne_of_mem_of_not_mem member elsewhere).symm, untouched.defaults k member]

end Registry.Untouched

theorem untouched_declared (home name : String) :
    Registry.builtin.Untouched (.declared home name) := by
  have path : Registry.builtin.searchPath (.declared home name) = [.declared home name, .object] :=
    rfl
  constructor <;>
  · intro k member
    rw [path, List.mem_cons, List.mem_singleton] at member
    rcases member with rfl | rfl <;> rfl

/-! ### Writing an array -/

section

variable {r : Registry} {v shown : Value} {kind : Kind} {dimensions items : Value}
  {target : Except Fault Value}

theorem asRegistered_array (array : v.core = .array kind dimensions items true)
    (absent : r.resolve v.kind = none) (stands : standsFor? dimensions items = some target) :
    asRegistered r v = target := by
  unfold standsFor? at stands
  unfold asRegistered
  rw [absent, Option.isSome_none, if_neg Bool.false_ne_true, array]
  dsimp only
  split at stands
  · rename_i vector
    cases stands
    rw [if_pos vector]
  · rename_i noVector
    split at stands
    · rename_i matrix
      cases stands
      rw [if_neg noVector, if_pos matrix]
    · cases stands

theorem asRegistered_of_no_array (absent : r.resolve v.kind = none)
    (other : ∀ k n x, v.core = .array k n x true → standsFor? n x = none) :
    asRegistered r v = .error (.unsupportedKind v.kind) := by
  refine asRegistered_of_absent absent fun k n x array => ?_
  have none := other k n x array
  unfold standsFor? at none
  by_cases vector : n.same (.int 1)
  · simp [vector] at none
  · by_cases matrix : n.same (.int 2)
    · simp [vector, matrix] at none
    · exact ⟨vector, matrix⟩

theorem format_congr {r : Registry} {v v' : Value} {settings settings' : Context}
    (same : write r v (effectiveContext r v settings) =
      write r v' (effectiveContext r v' settings')) :
    format r v settings = format r v' settings' := by
  rw [format, renderText, same, format, renderText]

theorem format_of_fail {r : Registry} {v : Value} {settings : Context} {f : Fault}
    (failed : write r v (effectiveContext r v settings) = .fail f) :
    format r v settings = .error f := by
  rw [format, renderText, failed]
  rfl

end

/-! ### The settings of what an array stands for -/

theorem complete_default_update (settings : Context) : Complete (Context.default.update settings) :=
  fun key => by
    rw [OrderedMap.get?_update, Option.or_assoc]
    cases Context.default.get? key <;> rfl

theorem effectiveContext_of_untouched {r : Registry} {v : Value} (untouched : r.Untouched v.kind)
    (settings : Context) : effectiveContext r v settings = Context.default.update settings := by
  rw [effectiveContext, untouched.kindDefaults_eq_empty rfl]
  rfl

/-- The defaults of the kind of a value replace no global default that the settings leave. -/
def LeavesDefaults (r : Registry) (v : Value) (settings : Context) : Prop :=
  ∀ key, settings.get? key = none → ∀ global, Context.default.get? key = some global →
    ∀ own, (r.kindDefaults v).get? key = some own → own = global

/-- Defaults that only complete the settings give what defaults under the settings give, exactly if
they replace no global default that is left. -/
theorem alike_filled_iff (r : Registry) (v : Value) (settings : Context) :
    Alike ((Context.default.update settings).fill (r.kindDefaults v))
      ((effectiveContext r v settings).fill (r.kindDefaults v)) ↔
        LeavesDefaults r v settings := by
  unfold Alike LeavesDefaults
  refine forall_congr' fun key => ?_
  simp only [effectiveContext, OrderedMap.get?_fill, OrderedMap.get?_update]
  cases settings.get? key <;> cases Context.default.get? key <;>
    cases (r.kindDefaults v).get? key <;> simp [eq_comm]

/-- An array that neither has a rule nor defaults fails where what it stands for cannot be made.
Otherwise it is formatted like that under completed settings, and like that under the settings
themselves if the defaults of that replace no global default. If what it stands for has no rule it
is refused, and unless that is an array as well, so is that. -/
theorem array_formats_like_what_it_stands_for {r : Registry} {v : Value} {kind : Kind}
    {dimensions items : Value} (array : v.core = .array kind dimensions items true)
    (untouched : r.Untouched v.kind) {target : Except Fault Value}
    (stands : standsFor? dimensions items = some target) (settings : Context) :
    (∀ f, target = .error f → format r v settings = .error f) ∧
    ∀ shown, target = .ok shown →
      (r.resolve shown.kind = none →
        format r v settings = .error (.unsupportedKind shown.kind) ∧
        ((∀ k n x, shown.core = .array k n x true → standsFor? n x = none) →
          format r shown settings = .error (.unsupportedKind shown.kind))) ∧
      ((r.resolve shown.kind).isSome →
        format r v settings = format r shown (Context.default.update settings) ∧
        (LeavesDefaults r shown settings →
          format r v settings = format r shown settings)) := by
  have registered := asRegistered_array array untouched.resolve_eq_none stands
  constructor
  · rintro f rfl
    exact format_of_fail (write_of_error registered _)
  · rintro shown rfl
    refine ⟨fun none => ⟨format_of_fail (write_of_unregistered registered none _), fun other =>
      format_of_fail (write_of_error (asRegistered_of_no_array none other) _)⟩, fun some => ?_⟩
    have itself : asRegistered r shown = .ok shown := asRegistered_of_isSome some
    have same : write r v (effectiveContext r v settings) =
        write r shown (Context.default.update settings) := by
      rw [effectiveContext_of_untouched untouched, write_of_registered registered some]
    constructor
    · apply format_congr
      rw [same, write_effectiveContext r itself (complete_default_update settings)]
    · intro leaves
      apply format_congr
      rw [same]
      exact write_of_alike_filled r itself ((alike_filled_iff r shown settings).2 leaves)

def gridKind : Kind := .declared "grids" "Grid"

/-- A registry in which matrices have a parameter and an indentation of their own. -/
def spaced : Registry :=
  Registry.builtin.addDefaults .matrix
    (OrderedMap.ofList [("row_gap", .str "1em"), ("indent", .str "\t")])

theorem untouched_spaced : spaced.Untouched gridKind :=
  (untouched_declared _ _).addSupplier (by decide) _

def identity : Value := .list [.list [.int 1, .int 0], .list [.int 0, .int 1]]

/-- Where the settings say how to indent, a grid of two dimensions is formatted like the matrix. -/
theorem grid_formats_like_matrix :
    let settings : Context := OrderedMap.ofList [("indent", .str "  ")]
    let matrix : Value := .matrix [[.int 1, .int 0], [.int 0, .int 1]]
    (Value.array gridKind (.int 2) identity true).core = .array gridKind (.int 2) identity true ∧
    spaced.Untouched gridKind ∧ standsFor? (.int 2) identity = some (.ok matrix) ∧
    (spaced.resolve matrix.kind).isSome ∧ LeavesDefaults spaced matrix settings ∧
    format spaced (.array gridKind (.int 2) identity true) settings =
      format spaced matrix settings := by
  intro settings matrix
  have leaves : LeavesDefaults spaced matrix settings := by
    intro key open_ global core own found
    have listed : key ∈ ["row_gap", "indent"] := by
      rw [← show (spaced.kindDefaults matrix).keys = ["row_gap", "indent"] from rfl,
        ← OrderedMap.contains_iff, ← OrderedMap.isSome_get?, found, Option.isSome_some]
    rw [List.mem_cons, List.mem_singleton] at listed
    rcases listed with rfl | rfl
    · cases core
    · cases open_
  have stands : standsFor? (.int 2) identity = some (.ok matrix) := standsFor?_two identity
  have formats := array_formats_like_what_it_stands_for (r := spaced)
    (v := .array gridKind (.int 2) identity true) rfl untouched_spaced stands settings
  exact ⟨rfl, untouched_spaced, stands, rfl, leaves, ((formats.2 matrix rfl).2 rfl).2 leaves⟩

/-- An indentation that is the default for lists counts for a list, but not for an array that stands
for it. -/
theorem array_misses_core_defaults_of_lists :
    let r := Registry.builtin.addDefaults .list (OrderedMap.ofList [("indent", .str "  ")])
    let items : Value := .list [.int 1, .int 2]
    r.Untouched gridKind ∧ standsFor? (.int 1) items = some (.ok items) ∧
    renderText r (.array gridKind (.int 1) items true) OrderedMap.empty =
      .ok "$vec(\n    1, 2\n)$".toList ∧
    renderText r items OrderedMap.empty = .ok "$vec(\n  1, 2\n)$".toList ∧
    format r (.array gridKind (.int 1) items true) OrderedMap.empty ≠
      format r items OrderedMap.empty := by
  intro r items
  have rendered (v : Value) {t : List Char}
      (succeeds : (write r v (effectiveContext r v OrderedMap.empty)).fault.isNone = true)
      (same : (write r v (effectiveContext r v OrderedMap.empty)).written = t) :
      renderText r v OrderedMap.empty = .ok t :=
    renderText_eq_ok_iff.2 (same ▸ Emission.eq_text_of_isNone succeeds)
  have array := rendered (.array gridKind (.int 1) items true) (t := "$vec(\n    1, 2\n)$".toList)
    (by decide +kernel) (by decide +kernel)
  have list := rendered items (t := "$vec(\n  1, 2\n)$".toList)
    (by decide +kernel) (by decide +kernel)
  refine ⟨(untouched_declared _ _).addSupplier (by decide) _, standsFor?_one items, array, list,
    fun same => ?_⟩
  rw [format, array, format, list] at same
  simp [Except.map] at same

end TypstMarkup.Markup
