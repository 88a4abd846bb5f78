import TypstMarkup.Proofs.Failing
import TypstMarkup.Value.Order

/-!
Operations on values fail as operations do.
-/
namespace TypstMarkup

open Value

variable {v w : Value} {c n : Int}

theorem isOperation_readInteger? (text : List Char) : IsOperation (Text.readInteger? text) := by
  unfold Text.readInteger?
  dsimp only
  split
  · simp
  · split
    · simp
    · split <;> simp

theorem isOperation_toInteger? (v : Value) : IsOperation v.toInteger? := by
  unfold Value.toInteger?
  split
  case h_4 | h_5 => split <;> simp
  case h_7 | h_8 | h_9 =>
    refine (isOperation_readInteger? _).bind fun read _ => ?_
    cases read <;> simp
  all_goals simp

theorem failsAs_floatOfInt? (n : Int) : FailsAs .overflow (floatOfInt? n) := by
  unfold floatOfInt?
  split <;> simp

theorem isOperation_floatOfInt? (n : Int) : IsOperation (floatOfInt? n) :=
  (failsAs_floatOfInt? n).isOperation rfl

theorem isOperation_toFloating? (v : Value) : IsOperation v.toFloating? := by
  unfold Value.toFloating?
  split
  case h_2 | h_3 | h_4 => exact isOperation_floatOfInt? _
  case h_7 | h_8 | h_9 | h_10 | h_11 => split <;> simp
  all_goals simp

theorem isOperation_shown? (v : Value) : IsOperation v.shown? := by
  unfold Value.shown?
  split <;> simp

theorem isOperation_plainText? (v : Value) : IsOperation v.plainText? := by
  unfold Value.plainText?
  split <;> simp

theorem isOperation_items? (v : Value) : IsOperation v.items? := by
  unfold Value.items?
  split <;> simp

theorem isOperation_length? (v : Value) : IsOperation v.length? := by
  unfold Value.length?
  split
  case h_6 => split <;> simp
  all_goals simp

theorem isOperation_rowItems? (v : Value) : IsOperation v.rowItems? := by
  unfold Value.rowItems?
  split
  · split
    · simp
    · split
      · simp
      · exact isOperation_items? v
  · exact isOperation_items? v

theorem isOperation_matrixRows? (v : Value) : IsOperation v.matrixRows? := by
  refine (isOperation_items? v).bind fun items _ => ?_
  refine (failsWithin_mapM fun item _ => isOperation_rowItems? item).bind fun rows _ => ?_
  dsimp only
  split <;> simp

theorem isOperation_repeated (text : List Char) (count : Int) :
    IsOperation (Markup.repeated text count) := by
  unfold Markup.repeated
  split
  · simp
  · split
    · simp
    · split
      · simp
      · split <;> simp

/-! ### Building values -/

theorem isOperation_ofSingle? (v : Value) : IsOperation v.ofSingle? := by
  unfold ofSingle?
  refine (isOperation_length? v).bind fun n _ => ?_
  extract_lets made
  have single : IsOperation (made ()) := by
    dsimp only [made]
    split <;> simp
  split
  · exact (isOperation_shown? v).bind fun _ _ => FailsWithin.bind (by simp) fun _ _ => single
  · exact single

theorem isOperation_ofRatio? (numerator denominator : Int) :
    IsOperation (ofRatio? numerator denominator) := by
  unfold ofRatio?
  split <;> simp

theorem isOperation_ofBounds? (start stop step : Int) :
    IsOperation (ofBounds? start stop step) := by
  unfold ofBounds?
  split <;> simp

theorem isOperation_ofDecimalText? (text : String) : IsOperation (ofDecimalText? text) := by
  unfold ofDecimalText?
  split <;> simp

theorem isOperation_ofPlain? (v : Value) : IsOperation v.ofPlain? := by
  simpa [ofPlain?] using isOperation_plainText? v

theorem isOperation_ofRows? (v : Value) : IsOperation v.ofRows? := by
  simpa [ofRows?] using isOperation_matrixRows? v

mutual

theorem failsAs_hashable? : (v : Value) → FailsAs .typeError v.hashable?
  | .list _ | .set _ | .dict _ => by simp [hashable?]
  | .tuple items => failsAs_hashableAll? items
  | .matrix rows => failsAs_hashableRows? rows
  | .object _ (some v) _ => failsAs_hashable? v
  | .object _ none _ => failsWithin_ok _
  | .null | .bool _ | .int _ | .float _ | .complex _ _ | .decimal _ | .fraction _ | .char _
  | .str _ | .verbatim _ | .markup _ | .raw _ _ | .pattern _ | .flags _ | .bytes _ | .mode _
  | .range _ | .array _ _ _ _ | .builtin _ | .foreign _ _ => failsWithin_ok _

theorem failsAs_hashableAll? : (vs : List Value) → FailsAs .typeError (hashableAll? vs)
  | [] => failsWithin_ok _
  | v :: rest => (failsAs_hashable? v).bind fun _ _ => failsAs_hashableAll? rest

theorem failsAs_hashableRows? :
    (rows : List (List Value)) → FailsAs .typeError (hashableRows? rows)
  | [] => failsWithin_ok _
  | row :: rest => (failsAs_hashableAll? row).bind fun _ _ => failsAs_hashableRows? rest

end

theorem isOperation_hashable? (v : Value) : IsOperation v.hashable? :=
  (failsAs_hashable? v).isOperation rfl

theorem failsAs_ofMembers? (items : List Value) : FailsAs .typeError (ofMembers? items) := by
  refine FailsWithin.bind (failsWithin_forIn (fun v _ => ?_) _) fun _ _ => failsWithin_pure _
  exact (failsAs_hashable? v).bind fun _ _ => failsWithin_pure _

theorem isOperation_ofMembers? (items : List Value) : IsOperation (ofMembers? items) :=
  (failsAs_ofMembers? items).isOperation rfl

theorem failsAs_ofEntries? (entries : List (Value × Value)) :
    FailsAs .typeError (ofEntries? entries) := by
  refine FailsWithin.bind (failsWithin_forIn (fun entry _ => ?_) _) fun _ _ => failsWithin_pure _
  exact (failsAs_hashable? entry.1).bind fun _ _ => failsWithin_pure _

theorem isOperation_ofEntries? (entries : List (Value × Value)) :
    IsOperation (ofEntries? entries) :=
  (failsAs_ofEntries? entries).isOperation rfl

theorem operational_objection (source : List Char) (o : Pattern.Objection) :
    (o.toFault source).Operational := by
  cases o with
  | malformed reason position => cases position <;> rfl
  | _ => rfl

theorem isOperation_ofText? (source : String) (flags : PatternFlags) :
    IsOperation (Pattern.ofText? source flags) := by
  unfold Pattern.ofText?
  split
  · simp
  · exact failsWithin_error.2 (operational_objection _ _)

theorem isOperation_ofBytes? (source : List UInt8) (flags : PatternFlags) :
    IsOperation (Pattern.ofBytes? source flags) := by
  unfold Pattern.ofBytes?
  dsimp only
  split
  · simp
  · exact failsWithin_error.2 (operational_objection _ _)

/-! ### Items by position or key -/

theorem isOperation_itemAt? (sequence : String) (items : List Value) (index : Int) :
    IsOperation (itemAt? sequence items index) := by
  unfold itemAt?
  split
  · simp
  · split <;> simp

theorem isOperation_index? (what : String) (index : Value) : IsOperation (index? what index) := by
  unfold index?
  split <;> simp

theorem isOperation_item? (v index : Value) : IsOperation (v.item? index) := by
  have item (sequence what : String) (items : List Value) : IsOperation (do
      itemAt? sequence items (← index? what index)) :=
    (isOperation_index? what index).bind fun _ _ => isOperation_itemAt? _ _ _
  unfold Value.item?
  split
  · exact item _ _ _
  · exact item _ _ _
  · exact item _ _ _
  · refine (isOperation_index? _ _).bind fun n _ => ?_
    dsimp only
    split <;> simp
  · refine (isOperation_index? _ _).bind fun n _ => ?_
    split <;> simp
  · refine (isOperation_hashable? _).bind fun _ _ => ?_
    split
    · simp
    · exact (isOperation_shown? _).bind fun _ _ => by simp
  · split
    · split
      · exact isOperation_itemAt? _ _ _
      · simp
    · simp

theorem isOperation_positions? (s : Slice) (length : Nat) : IsOperation (s.positions? length) := by
  unfold Slice.positions?
  dsimp only
  split <;> simp

theorem isOperation_slice? (v : Value) (s : Slice) : IsOperation (v.slice? s) := by
  have part {α : Type} (length : Nat) (made : Progression → α) :
      IsOperation (do return made (← s.positions? length)) :=
    (isOperation_positions? s length).bind fun _ _ => failsWithin_pure _
  unfold Value.slice?
  split
  case h_5 => exact (isOperation_positions? s _).bind fun _ _ => isOperation_ofBounds? _ _ _
  case h_6 => simp
  case h_7 =>
    split
    · exact part _ _
    · simp
  all_goals exact part _ _

theorem isOperation_contains? (container v : Value) : IsOperation (container.contains? v) := by
  unfold Value.contains?
  split
  · split <;> simp
  · split
    · simp
    · exact (isOperation_hashable? v).bind fun _ _ => (isOperation_items? _).bind fun _ _ =>
        failsWithin_pure _
    · exact (isOperation_hashable? v).bind fun _ _ => (isOperation_items? _).bind fun _ _ =>
        failsWithin_pure _
    · split <;> simp

end TypstMarkup
