import TypstMarkup.Proofs.Markup.Readable

/-!
Progressions as half-open ranges. The call that is written for a progression has a bound of its own,
one beyond the last element. Read as a half-open range, its three integers give the elements of the
progression in order, whatever the signs are and whether or not the step divides the distance.
Integers have any size; what bounds the call is the number of digits that are written.
-/
namespace TypstMarkup

/-! ### Reading -/

/-- A number stands strictly before a bound in the direction of a step. -/
def Precedes (step x bound : Int) : Prop :=
  if 0 < step then x < bound else bound < x

/-- The elements of a half-open range from a number on: they go on by the step as long as they stand
strictly before the bound. -/
inductive Enumerates (bound step : Int) : Int → List Int → Prop
  | reached {x : Int} (ended : ¬Precedes step x bound) : Enumerates bound step x []
  | next {x : Int} {rest : List Int} (before : Precedes step x bound)
    (onward : Enumerates bound step (x + step) rest) : Enumerates bound step x (x :: rest)

variable {bound step x : Int}

theorem Enumerates.unique {xs ys : List Int} (first : Enumerates bound step x xs)
    (second : Enumerates bound step x ys) : xs = ys := by
  induction first generalizing ys with
  | reached ended =>
    cases second with
    | reached _ => rfl
    | next before _ => exact absurd before ended
  | next before _ ih =>
    cases second with
    | reached ended => exact absurd before ended
    | next _ onward => rw [ih onward]

/-- A range has as many elements as there are multiples of the step that stand before the bound. -/
theorem enumerates_of_count {count : Nat}
    (counted : ∀ position : Nat, Precedes step (x + position * step) bound ↔ position < count) :
    Enumerates bound step x ((List.range count).map fun position : Nat => x + position * step) := by
  induction count generalizing x with
  | zero =>
    refine .reached fun before => Nat.not_lt_zero 0 ((counted 0).1 ?_)
    simpa using before
  | succ count ih =>
    have shift (position : Nat) :
        x + step + position * step = x + ((position + 1 : Nat) : Int) * step := by
      push_cast
      ring
    have onward := ih (x := x + step) fun position => by
      rw [shift, counted, Nat.succ_lt_succ_iff]
    have before : Precedes step x bound := by
      have first := (counted 0).2 (Nat.succ_pos count)
      simpa using first
    rw [List.range_succ_eq_map, List.map_cons, List.map_map]
    simp only [shift] at onward
    simpa [Function.comp_def] using Enumerates.next before onward

namespace Progression

variable (p : Progression)

theorem precedes_stop_iff (position : Nat) :
    Precedes p.step (p.get position) p.stop ↔ position < p.length := by
  rw [Precedes, get, length]
  have nonneg := Int.natCast_nonneg position
  by_cases up : 0 < p.step
  · rw [if_pos up, if_pos up]
    split
    · have steps := Int.ediv_nonneg (a := p.stop - p.start - 1) (by omega) up.le
      have fits := Int.le_ediv_iff_mul_le (a := position) (b := p.stop - p.start - 1) up
      omega
    · have beyond := Int.mul_nonneg nonneg up.le
      omega
  · have down : 0 < -p.step := by
      have nonzero := p.step_ne_zero
      omega
    have reverse : (position : Int) * -p.step = -(position * p.step) := Int.mul_neg _ _
    rw [if_neg up, if_neg up]
    split
    · have steps := Int.ediv_nonneg (a := p.start - p.stop - 1) (by omega) down.le
      have fits := Int.le_ediv_iff_mul_le (a := position) (b := p.start - p.stop - 1) down
      rw [reverse] at fits
      omega
    · have beyond := Int.mul_nonneg nonneg down.le
      rw [reverse] at beyond
      omega

/-- A progression has the elements of the half-open range up to its own bound. -/
theorem enumerates_toList : Enumerates p.stop p.step p.start p.toList :=
  enumerates_of_count p.precedes_stop_iff

end Progression

namespace Markup

/-- The bound that is written lies right behind the last element, so no element is lost, and the
next one is not reached however small the step is. -/
theorem precedes_writtenStop_iff (p : Progression) (position : Nat) :
    Precedes p.step (p.get position) (writtenStop p) ↔ position < p.length := by
  have nonneg := Int.natCast_nonneg position
  rw [Precedes, writtenStop, Progression.last?]
  by_cases empty : p.length = 0
  · rw [if_pos empty, empty]
    by_cases up : 0 < p.step
    · have beyond := Int.mul_nonneg nonneg up.le
      simp only [if_pos up, Progression.get]
      omega
    · have beyond := Int.mul_nonpos_of_nonneg_of_nonpos nonneg (Int.not_lt.1 up)
      simp only [if_neg up, Progression.get]
      omega
  · rw [if_neg empty]
    by_cases up : 0 < p.step
    · have order := Int.mul_le_mul_iff_of_pos_right (b := (position : Int)) (c := p.length - 1) up
      simp only [if_pos up, Progression.get]
      omega
    · have nonzero := p.step_ne_zero
      have order := Int.mul_le_mul_iff_of_pos_right (b := (position : Int)) (c := p.length - 1)
        (show 0 < -p.step by omega)
      rw [Int.mul_neg, Int.mul_neg] at order
      simp only [if_neg up, Progression.get]
      omega

theorem enumerates_writtenStop (p : Progression) :
    Enumerates (writtenStop p) p.step p.start p.toList :=
  enumerates_of_count (precedes_writtenStop_iff p)

/-! ### Calls -/

def rangeCall (start bound step : Int) : List Char :=
  "range(".toList ++ ((toString start).toList ++ ([',', ' '] ++ ((toString bound).toList ++
    (", step: ".toList ++ ((toString step).toList ++ [')'])))))

def codeOpening (mode : Mode) : List Char :=
  if mode = .code then [] else ['#']

theorem rangeCall_inj {a b s a' b' s' : Int} (same : rangeCall a b s = rangeCall a' b' s') :
    a = a' ∧ b = b' ∧ s = s' := by
  have behindStart := List.append_cancel_left same
  obtain ⟨start, behindStart⟩ := numeral_append_inj rfl rfl behindStart
  have behindBound := List.append_cancel_left behindStart
  obtain ⟨bound, behindBound⟩ := numeral_append_inj rfl rfl behindBound
  have behindStep := List.append_cancel_left behindBound
  exact ⟨start, bound, (numeral_append_inj rfl rfl behindStep).1⟩

section

variable {r : Registry} (plain : r.IsBuiltin)

include plain

theorem write_int_of_short {n : Int} (short : overlong n = false) (c : Context) :
    write r (.int n) c = .text (toString n).toList := by
  rw [write_int plain, writeInteger]
  simp [Value.toInteger?, Value.core, Emission.attempt, Emission.attemptText, integerText, short]

theorem write_int_of_overlong {n : Int} (long : overlong n = true) (c : Context) :
    write r (.int n) c = .fail .tooManyDigits := by
  rw [write_int plain, writeInteger]
  simp [Value.toInteger?, Value.core, Emission.attempt, Emission.attemptText, integerText, long]

theorem write_range (p : Progression) (few : p.length < wordLimit) {c : Context} {mode : Mode}
    (found : c.mode = .ok mode) :
    write r (.range p) c = .text (codeOpening mode) ++ (.text "range(".toList ++
      ((write r (.int p.start) (c.withMode .code) ++ (.text [',', ' '] ++
        (write r (.int (writtenStop p)) (c.withMode .code) ++ (.text ", step: ".toList ++
          write r (.int p.step) (c.withMode .code))))) ++ .text [')'])) := by
  rw [write_builtin plain (.range p) .range c nofun rfl rfl, BuiltinRule.apply, writeRange]
  simp only [Value.core]
  rw [if_neg (Nat.not_le.2 few), codeSigil, found]
  rfl

variable (p : Progression) (few : p.length < wordLimit) {c : Context} {mode : Mode}
  (found : c.mode = .ok mode)

include few found

theorem write_range_of_short (start : overlong p.start = false)
    (bound : overlong (writtenStop p) = false) (step : overlong p.step = false) :
    write r (.range p) c =
      .text (codeOpening mode ++ rangeCall p.start (writtenStop p) p.step) := by
  rw [write_range plain p few found, write_int_of_short plain start,
    write_int_of_short plain bound, write_int_of_short plain step]
  simp only [Emission.text_append_text, rangeCall, List.append_assoc]

theorem write_range_of_overlong
    (long : overlong p.start || overlong (writtenStop p) || overlong p.step) :
    (write r (.range p) c).fault = some .tooManyDigits := by
  rw [write_range plain p few found]
  cases start : overlong p.start with
  | true =>
    rw [write_int_of_overlong plain start]
    rfl
  | false =>
    rw [write_int_of_short plain start]
    cases bound : overlong (writtenStop p) with
    | true =>
      rw [write_int_of_overlong plain bound]
      rfl
    | false =>
      rw [write_int_of_short plain bound]
      rw [start, bound, Bool.false_or, Bool.false_or] at long
      rw [write_int_of_overlong plain long]
      rfl

/-- The call that is written for a progression stands for its elements. It is written unless one of
its integers has too many digits. -/
theorem range_denotes_its_elements :
    (if overlong p.start || overlong (writtenStop p) || overlong p.step then
        (write r (.range p) c).fault = some .tooManyDigits
      else ∃ start bound step,
        write r (.range p) c = .text (codeOpening mode ++ rangeCall start bound step)) ∧
      Enumerates p.stop p.step p.start p.toList ∧
      ∀ start bound step,
        write r (.range p) c = .text (codeOpening mode ++ rangeCall start bound step) →
          ∀ xs, Enumerates bound step start xs ↔ xs = p.toList := by
  by_cases long : (overlong p.start || overlong (writtenStop p) || overlong p.step) = true
  · have failed := write_range_of_overlong plain p few found long
    rw [if_pos long]
    refine ⟨failed, p.enumerates_toList, fun start bound step written => ?_⟩
    rw [written] at failed
    cases failed
  · rw [if_neg long]
    rw [Bool.not_eq_true, Bool.or_eq_false_iff, Bool.or_eq_false_iff] at long
    have text := write_range_of_short plain p few found long.1.1 long.1.2 long.2
    refine ⟨⟨_, _, _, text⟩, p.enumerates_toList, fun start bound step written xs => ?_⟩
    rw [text, Emission.text_inj, List.append_cancel_left_eq] at written
    obtain ⟨rfl, rfl, rfl⟩ := rangeCall_inj written
    have elements := enumerates_writtenStop p
    exact ⟨fun read => read.unique elements, fun same => same ▸ elements⟩

end

/-- Ten, six, two, minus two: the step goes down and does not divide the distance. -/
def descent : Progression := ⟨10, -3, -4, by decide⟩

theorem range_denotes_its_elements_descent :
    Registry.builtin.IsBuiltin ∧ descent.length < wordLimit ∧
      (Context.default.withMode .math).mode = .ok .math ∧
      descent.toList = [10, 6, 2, -2] ∧
      (if overlong descent.start || overlong (writtenStop descent) || overlong descent.step then
          (write .builtin (.range descent) (Context.default.withMode .math)).fault =
            some .tooManyDigits
        else ∃ start bound step, write .builtin (.range descent) (Context.default.withMode .math) =
          .text (codeOpening .math ++ rangeCall start bound step)) ∧
      Enumerates descent.stop descent.step descent.start descent.toList ∧
      ∀ start bound step, write .builtin (.range descent) (Context.default.withMode .math) =
          .text (codeOpening .math ++ rangeCall start bound step) →
        ∀ xs, Enumerates bound step start xs ↔ xs = descent.toList := by
  have few : descent.length < wordLimit := by decide
  exact ⟨isBuiltin_builtin, few, rfl, by decide,
    range_denotes_its_elements isBuiltin_builtin descent few rfl⟩

def single (n : Int) : Progression := ⟨n, n + 1, 1, Int.one_ne_zero⟩

theorem length_single (n : Int) : (single n).length = 1 := by
  simp [Progression.length, single]

theorem overlong_digitLimit : overlong digitLimit = true := by
  rw [overlong, Int.natAbs_natCast]
  exact decide_eq_true (Nat.le_refl _)

theorem remote_range_is_not_written :
    ¬∀ (p : Progression) (c : Context) (mode : Mode), p.length < wordLimit → c.mode = .ok mode →
      ∃ start bound step,
        write .builtin (.range p) c = .text (codeOpening mode ++ rangeCall start bound step) ∧
          Enumerates bound step start p.toList := by
  intro always
  have few : (single digitLimit).length < wordLimit := by
    rw [length_single]
    decide
  have long : overlong (single digitLimit).start = true := overlong_digitLimit
  have failed := write_range_of_overlong isBuiltin_builtin (single digitLimit) few
    (show Context.default.mode = .ok .markup from rfl) (by rw [long, Bool.true_or, Bool.true_or])
  obtain ⟨start, bound, step, written, -⟩ := always (single digitLimit) .default .markup few rfl
  rw [written] at failed
  cases failed

end Markup

end TypstMarkup
