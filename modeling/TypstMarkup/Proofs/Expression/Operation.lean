import TypstMarkup.Expression.Evaluate
import TypstMarkup.Proofs.Markup.Limit
import TypstMarkup.Proofs.Value.Arithmetic

/-!
Calls and the other parts of evaluation fail as operations do, apart from calls that format.
-/
namespace TypstMarkup.Expression

@[simp] theorem isOperation_misfit {α : Type} (text : String) :
    IsOperation (misfit text : Except Fault α) :=
  failsWithin_error.2 rfl

/-! ### Arguments -/

theorem isOperation_bind (s : Signature) (a : Arguments) : IsOperation (s.bind a) := by
  unfold Signature.bind
  dsimp only
  refine FailsWithin.bind (failsWithin_forIn (fun entry _ => ?_) _) fun _ _ => ?_
  · split
    · simp
    · split <;> simp
  · exact .guard rfl (.guard rfl (failsWithin_pure _))

theorem isOperation_noKeywords (title : String) (a : Arguments) :
    IsOperation (noKeywords title a) := by
  unfold noKeywords
  split <;> simp

theorem isOperation_only (title : String) (a : Arguments) : IsOperation (only title a) := by
  refine (isOperation_noKeywords title a).bind fun vs _ => ?_
  split <;> simp

theorem isOperation_atMostOne (title : String) (a : Arguments) :
    IsOperation (atMostOne title a) := by
  refine (isOperation_noKeywords title a).bind fun vs _ => ?_
  split <;> simp

theorem isOperation_asIndex (v : Value) : IsOperation (asIndex v) := by
  unfold asIndex
  split <;> simp

/-! ### Constructors -/

theorem isOperation_rangeOf (a : Arguments) : IsOperation (rangeOf a) := by
  refine (isOperation_noKeywords _ a).bind fun vs _ => ?_
  split
  · simp
  · exact (isOperation_asIndex _).bind fun _ _ => isOperation_ofBounds? _ _ _
  · exact (isOperation_asIndex _).bind fun _ _ => (isOperation_asIndex _).bind fun _ _ =>
      isOperation_ofBounds? _ _ _
  · exact (isOperation_asIndex _).bind fun _ _ => (isOperation_asIndex _).bind fun _ _ =>
      (isOperation_asIndex _).bind fun _ _ => isOperation_ofBounds? _ _ _
  · simp

theorem operational_noRatio (isNan : Bool) : (noRatio isNan).Operational := by
  cases isNan <;> rfl

theorem isOperation_fractionOf (numerator denominator : Option Value) :
    IsOperation (fractionOf numerator denominator) := by
  have single : IsOperation (fractionOf numerator none) := by
    unfold fractionOf
    dsimp only
    split
    · simp
    · split
      · split
        · simp
        · exact failsWithin_error.2 (operational_noRatio _)
      · split
        · simp
        · exact failsWithin_error.2 (operational_noRatio _)
      · split
        · split
          · exact isOperation_ofRatio? _ _
          · simp
        · simp
  cases denominator with
  | none => exact single
  | some second =>
    cases second with
    | null => exact single
    | _ =>
      unfold fractionOf
      dsimp only
      split
      · unfold quotient
        split <;> simp
      · simp

theorem isOperation_decimalOf (v : Value) : IsOperation (decimalOf v) := by
  unfold decimalOf
  split
  · simp
  · split <;> simp
  · simp
  · simp
  · split
    · simp
    · exact isOperation_ofDecimalText? _
    · simp

theorem isOperation_modeOf (a : Arguments) : IsOperation (modeOf a) := by
  unfold modeOf
  split
  · simp
  · split
    · simp
    · split
      · simp
      · exact (isOperation_shown? _).bind fun _ _ => by simp

theorem isOperation_recordText (v : Value) : IsOperation (recordText v) := by
  unfold recordText
  split <;> simp

theorem isOperation_flagsOf (v : Value) : IsOperation (flagsOf v) := by
  unfold flagsOf
  split <;> simp

theorem isOperation_patternOf (source flags : Value) : IsOperation (patternOf source flags) := by
  unfold patternOf
  split
  · exact .guard rfl (failsWithin_pure _)
  · exact (isOperation_flagsOf _).bind fun _ _ => (isOperation_ofBytes? _ _).bind fun _ _ =>
      failsWithin_pure _
  · split
    · exact (isOperation_flagsOf _).bind fun _ _ => (isOperation_ofText? _ _).bind fun _ _ =>
        failsWithin_pure _
    · simp

theorem isOperation_entriesOf (v : Value) : IsOperation (entriesOf v) := by
  unfold entriesOf
  split
  · simp
  · refine (isOperation_items? v).bind fun items _ => failsWithin_mapM fun item _ => ?_
    dsimp only
    split <;> simp

theorem isOperation_insertSorted (v : Value) (vs : List Value) :
    IsOperation (insertSorted v vs) := by
  induction vs with
  | nil => exact failsWithin_ok _
  | cons w rest ih =>
    refine (Value.isOperation_compare? _ v w).bind fun less _ => ?_
    split
    · simp
    · exact ih.bind fun _ _ => failsWithin_pure _

theorem isOperation_sortedOf (items : List Value) : IsOperation (sortedOf items) :=
  failsWithin_foldlM (fun done v => isOperation_insertSorted v done) []

theorem isOperation_extreme (title : String) (c : Comparison) (a : Arguments) :
    IsOperation (extreme title c a) := by
  unfold extreme
  refine (isOperation_noKeywords title a).bind fun vs _ => ?_
  extract_lets chosen
  have best (items : List Value) : IsOperation (chosen items) := by
    dsimp only [chosen]
    split
    · simp
    · refine failsWithin_foldlM (fun best v => ?_) _
      exact (Value.isOperation_compare? c v best).bind fun _ _ => failsWithin_pure _
  split
  · exact (isOperation_misfit _).bind fun items _ => best items
  · exact (isOperation_items? _).bind fun items _ => best items
  · exact (failsWithin_pure _).bind fun items _ => best items

theorem isOperation_sumOf (a : Arguments) : IsOperation (sumOf a) := by
  have total (v start : Value) : IsOperation (do
      (← v.items?).foldlM (Value.operate .add) start) :=
    (isOperation_items? v).bind fun items _ =>
      failsWithin_foldlM (Value.isOperation_operate .add) start
  unfold sumOf
  split
  · exact total _ _
  · exact total _ _
  · simp
  · simp

theorem isOperation_byteOf (v : Value) : IsOperation (byteOf v) := by
  refine (isOperation_asIndex v).bind fun n _ => ?_
  split <;> simp

theorem isOperation_bytesOf (a : Arguments) : IsOperation (bytesOf a) := by
  unfold bytesOf
  split
  · simp
  · split
    · simp
    · exact .guard rfl ((Value.isOperation_repeatItems _ _).bind fun _ _ => failsWithin_pure _)
    · refine .guard rfl ((isOperation_items? _).bind fun items _ => ?_)
      exact (failsWithin_mapM fun v _ => isOperation_byteOf v).bind fun _ _ => failsWithin_pure _

theorem isOperation_applyBound (b : Builtin) (bound : List (Option Value)) :
    IsOperation (applyBound b bound) := by
  unfold applyBound
  dsimp only
  split
  · exact isOperation_ofSingle? _
  · exact isOperation_ofRows? _
  · exact (isOperation_recordText _).bind fun _ _ => (isOperation_recordText _).bind fun _ _ =>
      failsWithin_pure _
  · exact isOperation_ofPlain? _
  · exact isOperation_fractionOf _ _
  · exact isOperation_patternOf _ _
  · split
    · simp
    · split <;> simp

theorem isOperation_member? (v : Value) (member : String) : IsOperation (v.member? member) := by
  unfold Value.member?
  split
  · simp
  · split
    · simp
    · simp
    · split <;> simp
    · simp

/-! ### Calls -/

/-- A failure that evaluation may end with: that of an operation or, if values are formatted by the
rules of their kinds, one that formatting is meant to have. -/
def Foreseen (r : Markup.Registry) (f : Fault) : Prop :=
  r.IsBuiltin → Markup.Documented f ∨ f.Operational

theorem foreseen_of_operation {r : Markup.Registry} {α : Type} {x : Except Fault α}
    (operation : IsOperation x) : FailsWithin (Foreseen r) x :=
  operation.mono fun _ operational _ => .inr operational

theorem foreseen_format (r : Markup.Registry) (v : Value) (settings : Context) :
    FailsWithin (Foreseen r) (Markup.format r v settings) := by
  intro f failed plain
  have rendered := map_eq_error_iff.1 failed
  exact (Markup.documented_or_exceeds_of_renderText plain rendered).imp_right (·.operational)

theorem foreseen_construct (r : Markup.Registry) (v : Value) (settings : Context) :
    FailsWithin (Foreseen r) (Markup.construct r v settings) := by
  unfold Markup.construct
  split
  · exact failsWithin_ok _
  · split
    · exact failsWithin_ok _
    · exact foreseen_format r v settings
  · exact foreseen_format r v settings

theorem isOperation_applyPositional (r : Markup.Registry) {b : Builtin} (other : b ≠ .markup)
    (a : Arguments) : IsOperation (applyPositional r b a) := by
  cases b with
  | markup => exact absurd rfl other
  | decimal =>
    rw [applyPositional]
    dsimp only
    split
    · exact failsWithin_error.2 rfl
    · split
      · exact failsWithin_pure _
      · exact isOperation_decimalOf _
      · exact isOperation_decimalOf _
      · exact isOperation_misfit _
  | mode => exact isOperation_modeOf a
  | range => exact isOperation_rangeOf a
  | length =>
    exact (isOperation_only _ a).bind fun v _ => (isOperation_length? v).bind fun _ _ =>
      failsWithin_pure _
  | absolute => exact (isOperation_only _ a).bind fun v _ => Value.isOperation_absolute v
  | representation =>
    exact (isOperation_only _ a).bind fun v _ => (isOperation_shown? v).bind fun _ _ =>
      failsWithin_pure _
  | any | all =>
    exact (isOperation_only _ a).bind fun v _ => (isOperation_items? v).bind fun _ _ =>
      failsWithin_pure _
  | sorted =>
    unfold applyPositional
    dsimp only
    split
    · exact (isOperation_items? _).bind fun items _ => (isOperation_sortedOf items).bind
        fun _ _ => failsWithin_pure _
    · exact isOperation_misfit _
  | sum => exact isOperation_sumOf a
  | minimum | maximum => exact isOperation_extreme _ _ a
  | str =>
    unfold applyPositional
    dsimp only
    split
    · exact failsWithin_pure _
    · exact (isOperation_plainText? _).bind fun _ _ => failsWithin_pure _
  | bool => exact (isOperation_atMostOne _ a).bind fun _ _ => failsWithin_pure _
  | int =>
    unfold applyPositional
    dsimp only
    split
    · exact failsWithin_pure _
    · exact (isOperation_toInteger? _).bind fun _ _ => failsWithin_pure _
  | float =>
    refine (isOperation_atMostOne _ a).bind fun v _ => ?_
    split
    · exact failsWithin_pure _
    · exact (isOperation_toFloating? _).bind fun _ _ => failsWithin_pure _
  | complex =>
    unfold applyPositional
    dsimp only
    split
    · exact failsWithin_pure _
    · split
      · exact failsWithin_pure _
      · exact (isOperation_toFloating? _).bind fun _ _ => failsWithin_pure _
    · exact (isOperation_toFloating? _).bind fun _ _ => (isOperation_toFloating? _).bind
        fun _ _ => failsWithin_pure _
  | list | tuple =>
    refine (isOperation_atMostOne _ a).bind fun v _ => ?_
    split
    · exact failsWithin_pure _
    · exact (isOperation_items? _).bind fun _ _ => failsWithin_pure _
  | set =>
    refine (isOperation_atMostOne _ a).bind fun v _ => ?_
    split
    · exact failsWithin_pure _
    · exact (isOperation_items? _).bind fun _ _ => isOperation_ofMembers? _
  | dict =>
    unfold applyPositional
    dsimp only
    split
    · exact isOperation_ofEntries? _
    · exact (isOperation_entriesOf _).bind fun _ _ => isOperation_ofEntries? _
    · exact isOperation_misfit _
  | bytes => exact isOperation_bytesOf a
  | char | fraction | matrix | raw | verbatim | compilePattern | parseMode | patternModule =>
    exact isOperation_misfit _

theorem foreseen_applyMarkup (r : Markup.Registry) (a : Arguments) :
    FailsWithin (Foreseen r) (applyPositional r .markup a) := by
  unfold applyPositional
  dsimp only
  split
  · exact foreseen_construct r _ _
  · exact foreseen_construct r _ _
  · exact foreseen_of_operation (isOperation_misfit _)

theorem foreseen_applyTo (r : Markup.Registry) (callee : Value) (a : Arguments) :
    FailsWithin (Foreseen r) (applyTo r callee a) := by
  unfold applyTo
  split
  · split
    · exact foreseen_of_operation
        ((isOperation_bind _ a).bind fun _ _ => isOperation_applyBound _ _)
    · rename_i b _ _ _
      by_cases source : b = .markup
      · subst source
        exact foreseen_applyMarkup r a
      · exact foreseen_of_operation (isOperation_applyPositional r source a)
  · exact foreseen_of_operation (isOperation_misfit _)

/-! ### Parts of evaluation -/

theorem isOperation_unpacked (v : Value) (before after : Nat) (starred : Bool) :
    IsOperation (unpacked v before after starred) := by
  unfold unpacked
  dsimp only
  split
  · refine (failsWithin_pure _).bind fun items _ => ?_
    split
    · exact .guard rfl (failsWithin_pure _)
    · split
      · simp
      · split <;> simp
  · exact failsWithin_error.2 rfl

theorem isOperation_spread (v : Value) : IsOperation (spread v) := by
  unfold spread
  split <;> simp

theorem isOperation_sliceBound (v : Option Value) : IsOperation (sliceBound v) := by
  unfold sliceBound
  split
  · simp
  · simp
  · split <;> simp

theorem isOperation_itemOf (v index : Value) : IsOperation (itemOf v index) := by
  unfold itemOf
  split
  · split
    · simp
    · exact (isOperation_shown? _).bind fun _ _ => by simp
  · split <;> simp
  · exact isOperation_item? v index

theorem isOperation_fieldText (v : Value) (conversion : Conversion) (format : String) :
    IsOperation (fieldText v conversion format) := by
  have laidOut (v : Value) : IsOperation (v.laidOut? format.toList) :=
    Value.isOperation_laidOut? v _
  unfold fieldText
  cases conversion with
  | none => exact laidOut v
  | plain =>
    exact (isOperation_plainText? v).bind fun _ _ => (failsWithin_pure _).bind fun v _ => laidOut v
  | shown | ascii =>
    exact (isOperation_shown? v).bind fun _ _ => (failsWithin_pure _).bind fun v _ => laidOut v

theorem isOperation_keywordEntries (callee v : Value) :
    IsOperation (keywordEntries callee v) := by
  unfold keywordEntries
  split
  · refine failsWithin_mapM fun entry _ => ?_
    dsimp only
    split <;> simp
  · simp

theorem isOperation_addKeywords (callee : Value) (keywords more : List (String × Value)) :
    IsOperation (addKeywords callee keywords more) := by
  unfold addKeywords
  split <;> simp

theorem isOperation_collected (kind : ComprehensionKind) (elements : List (Value × Value)) :
    IsOperation (collected kind elements) := by
  cases kind with
  | list | generator => exact failsWithin_ok _
  | set => exact isOperation_ofMembers? _
  | dict => exact isOperation_ofEntries? _

end TypstMarkup.Expression
