import Mathlib.Data.List.Chain
import TypstMarkup.Proofs.Text.Digits

/-!
Words of capital letters, and the texts that spell them in any case. Besides the small letters of
ASCII, dotless i and long s have a capital letter as their upper-case form, and sharp s and the
Latin ligatures have two or three; no word without these pairs is spelled by them.
-/
namespace TypstMarkup.Text

/-- The forms of a capital letter: itself, its small letter, and beyond ASCII dotless i and
long s. -/
def IsFormOf (capital c : Char) : Prop :=
  c = capital ∨ c = capital.toLower ∨ capital = 'I' ∧ c = 'ı' ∨ capital = 'S' ∧ c = 'ſ'

/-- Whether a text spells a word of capital letters, letter by letter. -/
def Spells (word text : List Char) : Prop :=
  List.Forall₂ IsFormOf word text

/-- The first two letters of the upper-case forms that have more than one. -/
def doubles : List (Char × Char) :=
  [('S', 'S'), ('F', 'F'), ('F', 'I'), ('F', 'L'), ('S', 'T')]

/-- A word of capital letters in which none of these pairs stands. -/
structure IsPlainWord (word : List Char) : Prop where
  capitals : ∀ c ∈ word, c.isUpper = true
  single : word.IsChain fun c d => (c, d) ∉ doubles

theorem upperChar_of_isUpper {c : Char} (capital : c.isUpper = true) : upperChar c = [c] := by
  rcases upperChar_cases c with kept | ⟨mapped, -, -⟩
  · exact kept
  · rw [inRanges_eq_false_of_apart (by decide) (inRanges_of_isUpper capital)] at mapped
    cases mapped

theorem upperChar_eq_singleton_iff {c d : Char} (capital : d.isUpper = true) :
    upperChar c = [d] ↔ IsFormOf d c := by
  constructor
  · intro mapped
    unfold upperChar at mapped
    split at mapped
    case h_2 code =>
      obtain rfl := (List.singleton_inj.1 mapped).symm
      exact .inr (.inr (.inl ⟨rfl, Char.toNat_inj.1 code⟩))
    case h_3 code =>
      obtain rfl := (List.singleton_inj.1 mapped).symm
      exact .inr (.inr (.inr ⟨rfl, Char.toNat_inj.1 code⟩))
    case h_11 =>
      obtain rfl := (List.singleton_inj.1 mapped).symm
      rcases Nat.lt_or_ge c.toNat 128 with ascii | beyond
      · have both := forall_ascii (P := fun c => c = c.toUpper ∨ c = c.toUpper.toLower)
          (by decide) ascii
        exact both.imp_right .inl
      · exact .inl (toUpper_eq_self beyond).symm
    all_goals cases mapped
  · rintro (rfl | rfl | ⟨rfl, rfl⟩ | ⟨rfl, rfl⟩)
    · exact upperChar_of_isUpper capital
    · have ascii : d.toNat < 128 := by
        have inside := inRanges_of_isUpper capital
        simp only [inRanges, List.any_cons, List.any_nil, Bool.or_false, Bool.and_eq_true,
          decide_eq_true_eq] at inside
        omega
      exact forall_ascii (P := fun d => d.isUpper = true → upperChar d.toLower = [d])
        (by decide) ascii capital
    · rfl
    · rfl

theorem mem_doubles_of_upperChar {c d e : Char} {more : List Char}
    (mapped : upperChar c = d :: e :: more) : (d, e) ∈ doubles := by
  unfold upperChar at mapped
  split at mapped
  case h_2 | h_3 | h_11 => cases mapped
  all_goals
    cases mapped
    decide

/-- A text has a plain word as its upper-case form exactly if it spells it. -/
theorem upper_eq_iff_spells {word : List Char} (plain : IsPlainWord word) {text : List Char} :
    upper text = word ↔ Spells word text := by
  induction text generalizing word with
  | nil =>
    constructor
    · rintro rfl
      exact .nil
    · rintro ⟨⟩
      rfl
  | cons c rest ih =>
    rw [upper, List.flatMap_cons, ← upper]
    cases word with
    | nil =>
      refine iff_of_false (fun same => ?_) (by rintro ⟨⟩)
      exact upperChar_ne_nil c (List.append_eq_nil_iff.1 same).1
    | cons d word =>
      have capital := plain.capitals d List.mem_cons_self
      have tail : IsPlainWord word :=
        ⟨fun e listed => plain.capitals e (List.mem_cons_of_mem _ listed), plain.single.tail⟩
      rw [Spells, List.forall₂_cons, ← Spells, ← ih tail, ← upperChar_eq_singleton_iff capital]
      constructor
      · intro same
        -- more than one letter in place of this one would be a pair that the word does not have
        cases mapped : upperChar c with
        | nil => exact absurd mapped (upperChar_ne_nil c)
        | cons first more =>
          rw [mapped] at same
          obtain ⟨rfl, tails⟩ := List.cons.inj same
          cases more with
          | nil => exact ⟨rfl, tails⟩
          | cons second more =>
            obtain ⟨word, rfl⟩ : ∃ tail, word = second :: tail := ⟨_, tails.symm⟩
            have pair : (first, second) ∉ doubles := (List.isChain_cons_cons.1 plain.single).1
            exact absurd (mem_doubles_of_upperChar mapped) pair
      · rintro ⟨mapped, same⟩
        rw [mapped, same]
        rfl

end TypstMarkup.Text
