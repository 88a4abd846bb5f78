import TypstMarkup.Markup.Write
import TypstMarkup.Proofs.Success

/-!
Emissions that succeed. An emission that is made of parts is a text exactly if its parts are, and
the text is put together from theirs.
-/
namespace TypstMarkup.Emission

variable {a b : Emission} {t : List Char}

theorem text_inj {s t : List Char} : text s = text t ↔ s = t := by
  simp [text]

theorem text_append_text (s t : List Char) : text s ++ text t = text (s ++ t) := rfl

theorem append_eq_text_iff :
    a ++ b = text t ↔ ∃ s s', a = text s ∧ b = text s' ∧ t = s ++ s' := by
  constructor
  · intro made
    obtain ⟨written, fault⟩ := a
    cases fault with
    | some f => cases made
    | none =>
      obtain ⟨written', fault'⟩ := b
      cases made
      exact ⟨written, written', rfl, rfl, rfl⟩
  · rintro ⟨s, s', rfl, rfl, rfl⟩
    rfl

theorem text_append_eq_text_iff {s : List Char} :
    text s ++ b = text t ↔ ∃ s', b = text s' ∧ t = s ++ s' := by
  rw [append_eq_text_iff]
  constructor
  · rintro ⟨_, s', made, rest, same⟩
    cases made
    exact ⟨s', rest, same⟩
  · rintro ⟨s', rest, same⟩
    exact ⟨s, s', rfl, rest, same⟩

theorem attempt_eq_text_iff {α : Type} {result : Except Fault α} {next : α → Emission} :
    attempt result next = text t ↔ ∃ found, result = .ok found ∧ next found = text t := by
  cases result with
  | ok found => simp [attempt]
  | error f => simp [attempt, fail, text]

theorem attemptText_eq_text_iff {result : Except Fault (List Char)} :
    attemptText result = text t ↔ result = .ok t := by
  rw [attemptText, attempt_eq_text_iff]
  simp [text_inj]

theorem enclose_eq_text_iff {left right : List Char} :
    enclose left b right = text t ↔ ∃ s, b = text s ∧ t = left ++ s ++ right := by
  rw [enclose, text_append_eq_text_iff]
  constructor
  · rintro ⟨_, made, rfl⟩
    obtain ⟨s, _, inner, last, rfl⟩ := append_eq_text_iff.1 made
    cases last
    exact ⟨s, inner, (List.append_assoc _ _ _).symm⟩
  · rintro ⟨s, rfl, rfl⟩
    exact ⟨s ++ right, rfl, List.append_assoc _ _ _⟩

theorem surround_eq_text_iff {left : List Char} :
    surround left b = text t ↔ ∃ s, b = text s ∧ t = left ++ s ++ left.reverse :=
  enclose_eq_text_iff

theorem join_eq_text_iff {delimiter : List Char} {parts : List Emission} :
    join delimiter parts = text t ↔
      ∃ texts : List (List Char), parts = texts.map text ∧ t = delimiter.intercalate texts := by
  induction parts generalizing t with
  | nil =>
    rw [join, text_inj]
    constructor
    · rintro rfl
      exact ⟨[], rfl, rfl⟩
    · rintro ⟨texts, none, rfl⟩
      rw [List.map_eq_nil_iff.1 none.symm]
      rfl
  | cons first rest ih =>
    cases rest with
    | nil =>
      rw [join]
      constructor
      · rintro rfl
        exact ⟨[t], rfl, by simp⟩
      · rintro ⟨texts, same, rfl⟩
        obtain ⟨s, none, rfl, rfl, last⟩ := List.map_eq_cons_iff.1 same.symm
        rw [List.map_eq_nil_iff.1 last]
        simp
    | cons second rest =>
      have joined : join delimiter (first :: second :: rest) =
          first ++ (text delimiter ++ join delimiter (second :: rest)) := rfl
      rw [joined, append_eq_text_iff]
      constructor
      · rintro ⟨s, _, rfl, made, rfl⟩
        obtain ⟨s', inner, rfl⟩ := text_append_eq_text_iff.1 made
        obtain ⟨texts, same, rfl⟩ := ih.1 inner
        obtain ⟨u, more, rfl, -, -⟩ := List.map_eq_cons_iff.1 same.symm
        exact ⟨s :: u :: more, by rw [List.map_cons, ← same], by simp⟩
      · rintro ⟨texts, same, rfl⟩
        obtain ⟨s, more, rfl, rfl, tail⟩ := List.map_eq_cons_iff.1 same.symm
        obtain ⟨u, texts, rfl, rfl, rfl⟩ := List.map_eq_cons_iff.1 tail
        refine ⟨s, delimiter ++ delimiter.intercalate (u :: texts), rfl, ?_, by simp⟩
        exact text_append_eq_text_iff.2 ⟨_, ih.2 ⟨u :: texts, rfl, rfl⟩, rfl⟩

theorem toExcept_eq_ok_iff : a.toExcept = .ok t ↔ a = text t := by
  obtain ⟨written, fault⟩ := a
  cases fault <;> simp [toExcept, text]

theorem eq_text_of_isNone (succeeds : a.fault.isNone = true) : a = text a.written := by
  obtain ⟨written, fault⟩ := a
  cases fault with
  | none => rfl
  | some f => cases succeeds

end TypstMarkup.Emission

namespace TypstMarkup.Markup

theorem renderText_eq_ok_iff {r : Registry} {v : Value} {settings : Context} {t : List Char} :
    renderText r v settings = .ok t ↔
      write r v (effectiveContext r v settings) = .text t :=
  Emission.toExcept_eq_ok_iff

theorem renderText_eq_error_iff {r : Registry} {v : Value} {settings : Context} {f : Fault} :
    renderText r v settings = .error f ↔
      ∃ streamed, write r v (effectiveContext r v settings) = ⟨streamed, some f⟩ := by
  unfold renderText
  generalize write r v (effectiveContext r v settings) = emission
  obtain ⟨streamed, fault⟩ := emission
  cases fault <;> simp [Emission.toExcept]

theorem format_eq_ok_iff {r : Registry} {v out : Value} {settings : Context} :
    format r v settings = .ok out ↔
      ∃ t, write r v (effectiveContext r v settings) = .text t ∧
        out = .markup (String.ofList t) := by
  rw [format, map_eq_ok_iff]
  constructor
  · rintro ⟨t, rendered, rfl⟩
    exact ⟨t, renderText_eq_ok_iff.1 rendered, rfl⟩
  · rintro ⟨t, written, rfl⟩
    exact ⟨t, renderText_eq_ok_iff.2 written, rfl⟩

end TypstMarkup.Markup
