import TypstMarkup.Proofs.Value.Operation

/-!
Layouts and directives fail as operations do.
-/
namespace TypstMarkup.Value

open Text (Layout)

/-! ### Layouts -/

theorem operational_ofRefusal (format : List Char) (kind : Kind) (r : Layout.Refusal) :
    (ofRefusal format kind r).Operational := by
  cases r <;> rfl

theorem isOperation_layoutText (l : Layout) (body : List Char) (kind : Kind) :
    IsOperation (layoutText l body kind) := by
  unfold layoutText
  split <;> simp [badFormat, unknownForm]

theorem isOperation_layoutFloat (l : Layout) (x : Binary64) (kind : Kind) :
    IsOperation (layoutFloat l x kind) := by
  unfold layoutFloat
  dsimp only
  split
  · simp
  · simp
  · split <;> simp [badFormat, unknownForm]

theorem isOperation_layoutWhole (l : Layout) (n : Int) (kind : Kind) :
    IsOperation (layoutWhole l n kind) := by
  refine .guard rfl (.guard rfl (.guard rfl ?_))
  split
  · exact .guard rfl (.guard rfl (.guard rfl (.guard rfl (failsWithin_pure _))))
  · refine .guard rfl ?_
    split <;> simp [badFormat, unknownForm]

theorem isOperation_layoutInteger (l : Layout) (n : Int) (kind : Kind) :
    IsOperation (layoutInteger l n kind) := by
  unfold layoutInteger
  dsimp only
  split
  · exact (isOperation_floatOfInt? n).bind fun _ _ => isOperation_layoutFloat _ _ _
  · exact isOperation_layoutWhole l n kind

theorem isOperation_layoutDecimal (l : Layout) (d : Decimal) (kind : Kind) :
    IsOperation (layoutDecimal l d kind) := by
  unfold layoutDecimal
  dsimp only
  split
  · simp
  · split <;> simp [badFormat, unknownForm]
  · simp [badFormat]

theorem isOperation_checkWidth (l : Layout) : IsOperation (checkWidth l) := by
  unfold checkWidth
  split <;> simp

theorem isOperation_laidOut? (v : Value) (format : List Char) :
    IsOperation (v.laidOut? format) := by
  have read {usual : Text.Alignment} {form : Option Char} {kind : Kind} : IsOperation (do
      let l ← (Layout.read usual form format).mapError (ofRefusal format kind)
      checkWidth l
      return l) := by
    refine FailsWithin.bind ?_ fun l _ => (isOperation_checkWidth l).bind fun _ _ =>
      failsWithin_pure _
    cases Layout.read usual form format with
    | error r => exact failsWithin_error.2 (operational_ofRefusal format kind r)
    | ok l => exact failsWithin_ok _
  unfold laidOut?
  split
  · exact isOperation_plainText? v
  · dsimp only
    split
    · exact read.bind fun l _ => failsWithin_map.2 (isOperation_layoutText l _ _)
    · exact read.bind fun l _ => failsWithin_map.2 (isOperation_layoutText l _ _)
    · exact read.bind fun l _ => failsWithin_map.2 (isOperation_layoutText l _ _)
    · exact read.bind fun l _ => failsWithin_map.2 (isOperation_layoutText l _ _)
    · exact read.bind fun l _ => failsWithin_map.2 (isOperation_layoutFloat l _ _)
    · exact read.bind fun l _ => failsWithin_map.2 (isOperation_layoutDecimal l _ _)
    · split
      · exact read.bind fun l _ => failsWithin_map.2 (isOperation_layoutInteger l _ _)
      · simp

/-! ### Directives -/

theorem isOperation_next? (a : Arguments) : IsOperation a.next? := by
  unfold Arguments.next?
  split <;> simp

theorem isOperation_readAmount (what word : String) (limit : Nat) (a : Arguments)
    (source : List Char) : IsOperation (readAmount what word limit a source) := by
  unfold readAmount
  split
  · refine (isOperation_next? a).bind fun next _ => ?_
    dsimp only
    split
    · exact .guard rfl (failsWithin_pure _)
    · simp
  · dsimp only
    split
    · simp
    · split <;> simp

theorem isOperation_readDirective (a : Arguments) (source : List Char) :
    IsOperation (readDirective a source) := by
  unfold readDirective
  dsimp only
  refine (isOperation_readAmount _ _ _ _ _).bind fun width _ => ?_
  split
  case' h_1 => refine (isOperation_readAmount _ _ _ _ _).bind fun precision _ => ?_
  all_goals
    refine (failsWithin_pure _).bind fun _ _ => ?_
    split
    · simp
    · exact .guard rfl (failsWithin_pure _)

theorem isOperation_integer? (d : Directive) (v : Value) : IsOperation (d.integer? v) := by
  unfold Directive.integer?
  dsimp only
  split
  · split <;> simp
  · split
    case h_7 => simp
    all_goals exact isOperation_toInteger? v

theorem isOperation_floatOf? (v : Value) : IsOperation (floatOf? v) := by
  unfold floatOf?
  split
  case h_7 => simp
  all_goals exact isOperation_toFloating? v

theorem isOperation_characterOf? (v : Value) : IsOperation (characterOf? v) := by
  unfold characterOf?
  dsimp only
  split
  · split <;> simp
  · split <;> simp
  · simp

theorem isOperation_written? (d : Directive) (v : Value) (place : Nat) :
    IsOperation (d.written? v place) := by
  unfold Directive.written?
  dsimp only
  split
  · exact (isOperation_plainText? v).bind fun _ _ => failsWithin_pure _
  · exact (isOperation_shown? v).bind fun _ _ => failsWithin_pure _
  · exact (isOperation_shown? v).bind fun _ _ => failsWithin_pure _
  · exact (isOperation_characterOf? v).bind fun _ _ => failsWithin_pure _
  case h_11 =>
    split
    · exact (isOperation_floatOf? v).bind fun _ _ => failsWithin_pure _
    · simp [unknownLetter, badFormat]
  all_goals
    refine (isOperation_integer? d v).bind fun n _ => .guard rfl ?_
    split <;> simp [unknownLetter, badFormat]

theorem isOperation_filledFrom (length budget : Nat) (a : Arguments) (source : List Char) :
    IsOperation (filledFrom length budget a source) := by
  induction budget generalizing a source with
  | zero => exact failsWithin_ok _
  | succ budget ih =>
    rw [filledFrom]
    split
    · exact .guard rfl (failsWithin_pure _)
    · exact (ih _ _).bind fun _ _ => failsWithin_pure _
    · extract_lets directive
      have directed (p : Arguments × List Char) : IsOperation (directive p) :=
        (isOperation_readDirective _ _).bind fun _ _ => (isOperation_next? _).bind fun _ _ =>
          (isOperation_written? _ _ _).bind fun _ _ => (ih _ _).bind fun _ _ => failsWithin_pure _
      split
      · split
        · split
          · exact (isOperation_item? _ _).bind fun _ _ =>
              (failsWithin_pure _).bind fun p _ => directed p
          · exact failsWithin_error.2 rfl
        · exact failsWithin_error.2 rfl
      · exact (failsWithin_pure _).bind fun p _ => directed p

theorem isOperation_filled? (template : List Char) (a : Arguments) :
    IsOperation (filled? template a) :=
  isOperation_filledFrom _ _ _ _

end TypstMarkup.Value
