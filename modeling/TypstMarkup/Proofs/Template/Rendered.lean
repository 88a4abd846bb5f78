import TypstMarkup.Template.Memory
import TypstMarkup.Proofs.Expression.Bindings
import TypstMarkup.Proofs.Template.Concatenated

/-!
What a template renders to. Segments are rendered in order, and every splice is evaluated once,
among the names that are left by the ones before it. All that one splice leaves to the next are the
names it assigns to. So a template put together from two renders to both texts put together, if the
first assigns to nothing, and no rendering has an influence on a later one.
-/
namespace TypstMarkup.Template

open Expression (Surroundings bound bindAll behaves_evaluate run_bind_eq_ok run_bind_eq_error
  unchanged_of_evaluate)

/-- The names that the first splice of a template finds. -/
def initialNames (names : OrderedMap Value) : List (String × Value) :=
  (names.insert constructorName (.builtin .markup)).entries

/-- Segments that render among names to a text, one after the other, and the names they leave. -/
inductive Rendered (r : Markup.Registry) :
    List (String × Value) → List Segment → List Char → List (String × Value) → Prop where
  | done (names : List (String × Value)) : Rendered r names [] [] names
  | literal {names final : List (String × Value)} {rest : List Segment} {more : List Char}
      (text : List Char) (tail : Rendered r names rest more final) :
      Rendered r names (.literal text :: rest) (text ++ more) final
  | splice {names next final : List (String × Value)} {s : Splice} {rest : List Segment}
      {text more : List Char}
      (run : (renderSegment (.splice s)).run { names := names, registry := r } =
        .ok (text, { names := next, registry := r }))
      (tail : Rendered r next rest more final) :
      Rendered r names (.splice s :: rest) (text ++ more) final

section

variable {r : Markup.Registry} {names final : List (String × Value)} {segments : List Segment}

/-! ### One splice -/

theorem run_renderSegment_eq_ok {s : Splice} {around after : Surroundings} {text : List Char}
    (run : (renderSegment (.splice s)).run around = .ok (text, after)) :
    ∃ v, (Expression.evaluate s.call).run around = .ok (v, after) ∧
      v.plainText?.map String.toList = .ok text := by
  obtain ⟨v, after', evaluated, run⟩ := run_bind_eq_ok.1 run
  obtain ⟨plain, after'', lifted, last⟩ := run_bind_eq_ok.1 run
  cases last
  refine ⟨v, ?_⟩
  cases found : v.plainText? with
  | error f =>
    rw [found] at lifted
    cases lifted
  | ok given =>
    rw [found] at lifted
    cases lifted
    exact ⟨evaluated, rfl⟩

/-- A splice leaves nothing behind but bindings of names that it assigns to. -/
theorem run_renderSegment_binds {s : Splice} {after : Surroundings} {text : List Char}
    (run : (renderSegment (.splice s)).run { names := names, registry := r } = .ok (text, after)) :
    ∃ made, (∀ b ∈ made, b.1 ∈ bound s.call) ∧
      after = { names := bindAll names made, registry := r } := by
  obtain ⟨v, evaluated, -⟩ := run_renderSegment_eq_ok run
  obtain ⟨⟨registry, made, own, changed⟩, loops⟩ :=
    (behaves_evaluate s.call (List.Subset.refl _)).leads _ v after evaluated
  refine ⟨made, own, ?_⟩
  cases after
  simp_all

theorem unchanged_of_renderSegment {s : Splice} {around after : Surroundings} {text : List Char}
    (free : bound s.call = []) (run : (renderSegment (.splice s)).run around = .ok (text, after)) :
    after = around := by
  obtain ⟨v, evaluated, -⟩ := run_renderSegment_eq_ok run
  exact unchanged_of_evaluate free evaluated

/-! ### All segments -/

/-- The bindings that splices leave behind are of names that one of them assigns to. -/
theorem Rendered.binds {text : List Char} (rendered : Rendered r names segments text final) :
    ∃ made, (∀ b ∈ made, ∃ s ∈ splices segments, b.1 ∈ bound s.call) ∧
      final = bindAll names made := by
  induction rendered with
  | done names => exact ⟨[], by simp, rfl⟩
  | literal text tail ih => exact ih
  | @splice names next final s rest text more run tail ih =>
    obtain ⟨first, own, same⟩ := run_renderSegment_binds run
    cases same
    obtain ⟨later, ownLater, rfl⟩ := ih
    refine ⟨first ++ later, fun b member => ?_, (Expression.bindAll_append _ _ _).symm⟩
    rcases List.mem_append.1 member with member | member
    · exact ⟨s, List.mem_cons_self, own b member⟩
    · obtain ⟨t, among, binds⟩ := ownLater b member
      exact ⟨t, List.mem_cons_of_mem s among, binds⟩

theorem mapM_of_rendered {text : List Char} (rendered : Rendered r names segments text final) :
    ∃ texts, (segments.mapM renderSegment).run { names := names, registry := r } =
      .ok (texts, { names := final, registry := r }) ∧ texts.flatten = text := by
  induction rendered with
  | done names => exact ⟨[], rfl, rfl⟩
  | literal text tail ih =>
    obtain ⟨texts, run, rfl⟩ := ih
    refine ⟨text :: texts, ?_, rfl⟩
    rw [List.mapM_cons]
    exact run_bind_eq_ok.2 ⟨text, _, rfl, run_bind_eq_ok.2 ⟨texts, _, run, rfl⟩⟩
  | @splice names next final s rest text more first tail ih =>
    obtain ⟨texts, run, rfl⟩ := ih
    refine ⟨text :: texts, ?_, rfl⟩
    rw [List.mapM_cons]
    exact run_bind_eq_ok.2 ⟨text, _, first, run_bind_eq_ok.2 ⟨texts, _, run, rfl⟩⟩

theorem rendered_of_mapM {texts : List (List Char)} {after : Surroundings}
    (run : (segments.mapM renderSegment).run { names := names, registry := r } =
      .ok (texts, after)) :
    ∃ final, Rendered r names segments texts.flatten final := by
  induction segments generalizing names texts with
  | nil =>
    cases run
    exact ⟨names, .done names⟩
  | cons first rest ih =>
    rw [List.mapM_cons] at run
    obtain ⟨text, between, runFirst, run⟩ := run_bind_eq_ok.1 run
    obtain ⟨more, after', runRest, last⟩ := run_bind_eq_ok.1 run
    cases last
    cases first with
    | literal given =>
      cases runFirst
      obtain ⟨final, tail⟩ := ih runRest
      exact ⟨final, .literal text tail⟩
    | splice s =>
      obtain ⟨made, -, rfl⟩ := run_renderSegment_binds runFirst
      obtain ⟨final, tail⟩ := ih runRest
      exact ⟨final, .splice runFirst tail⟩

theorem exists_failing_of_mapM {f : Fault}
    (run : (segments.mapM renderSegment).run { names := names, registry := r } = .error f) :
    ∃ before s after text reached, segments = before ++ .splice s :: after ∧
      Rendered r names before text reached ∧
      (renderSegment (.splice s)).run { names := reached, registry := r } = .error f := by
  induction segments generalizing names with
  | nil => cases run
  | cons first rest ih =>
    rw [List.mapM_cons, run_bind_eq_error] at run
    rcases run with failed | ⟨text, between, runFirst, run⟩
    · cases first with
      | literal given => cases failed
      | splice s => exact ⟨[], s, rest, [], names, rfl, .done names, failed⟩
    · rcases run_bind_eq_error.1 run with failed | ⟨_, _, -, last⟩
      · cases first with
        | literal given =>
          cases runFirst
          obtain ⟨before, s, after, more, reached, rfl, tail, failed⟩ := ih failed
          exact ⟨_ :: before, s, after, _, reached, rfl, .literal text tail, failed⟩
        | splice t =>
          obtain ⟨made, -, rfl⟩ := run_renderSegment_binds runFirst
          obtain ⟨before, s, after, more, reached, rfl, tail, failed⟩ := ih failed
          exact ⟨_ :: before, s, after, _, reached, rfl, .splice runFirst tail, failed⟩
      · cases last

theorem mapM_of_failing {before after : List Segment} {s : Splice} {text : List Char}
    {reached : List (String × Value)} {f : Fault} (rendered : Rendered r names before text reached)
    (failed : (renderSegment (.splice s)).run { names := reached, registry := r } = .error f) :
    ((before ++ .splice s :: after).mapM renderSegment).run { names := names, registry := r } =
      .error f := by
  induction rendered with
  | done names =>
    rw [List.nil_append, List.mapM_cons]
    exact run_bind_eq_error.2 (.inl failed)
  | literal text tail ih =>
    rw [List.cons_append, List.mapM_cons]
    exact run_bind_eq_error.2 (.inr ⟨text, _, rfl, run_bind_eq_error.2 (.inl (ih failed))⟩)
  | splice run tail ih =>
    rw [List.cons_append, List.mapM_cons]
    exact run_bind_eq_error.2 (.inr ⟨_, _, run, run_bind_eq_error.2 (.inl (ih failed))⟩)

end

/-! ### Templates -/

section

variable {r : Markup.Registry} {t : Template} {names : OrderedMap Value}

theorem render_eq_ok_iff {v : Value} :
    render t names r = .ok v ↔
      ∃ text final, Rendered r (initialNames names) t.segments text final ∧
        v = .markup (String.ofList text) := by
  unfold render
  constructor
  · intro rendered
    obtain ⟨⟨texts, after⟩, run, last⟩ := bind_eq_ok_iff.1 rendered
    cases last
    obtain ⟨final, rendered⟩ := rendered_of_mapM run
    exact ⟨_, final, rendered, rfl⟩
  · rintro ⟨text, final, rendered, rfl⟩
    obtain ⟨texts, run, rfl⟩ := mapM_of_rendered rendered
    exact bind_eq_ok_iff.2 ⟨_, run, rfl⟩

theorem render_eq_error_iff {f : Fault} :
    render t names r = .error f ↔
      ∃ before s after text reached, t.segments = before ++ .splice s :: after ∧
        Rendered r (initialNames names) before text reached ∧
        (renderSegment (.splice s)).run { names := reached, registry := r } = .error f := by
  unfold render
  constructor
  · intro failed
    rcases bind_eq_error_iff.1 failed with failed | ⟨_, -, last⟩
    · exact exists_failing_of_mapM failed
    · cases last
  · rintro ⟨before, s, after, text, reached, same, rendered, failed⟩
    rw [same]
    exact bind_eq_error_iff.2 (.inl (mapM_of_failing rendered failed))

end

/-! ### Templates put together -/

section

variable {r : Markup.Registry} {names final : List (String × Value)} {first second : List Segment}

theorem Rendered.literal_joined {more : List Char} (text : List Char)
    (rendered : Rendered r names (joined first second) more final) :
    Rendered r names (joined (.literal text :: first) second) (text ++ more) final := by
  match first, second, rendered with
  | [], [], rendered => exact .literal text rendered
  | [], .splice s :: rest, rendered => exact .literal text rendered
  | [], .literal after :: rest, .literal _ tail =>
    rw [← List.append_assoc]
    exact .literal (text ++ after) tail
  | next :: first, second, rendered =>
    rw [joined_cons_cons]
    exact .literal text rendered

/-- What the first segments leave, the second ones find. -/
theorem Rendered.joined {reached : List (String × Value)} {text more : List Char}
    (rendered : Rendered r names first text reached)
    (behind : Rendered r reached second more final) :
    Rendered r names (joined first second) (text ++ more) final := by
  induction rendered with
  | done names => exact behind
  | literal text tail ih =>
    rw [List.append_assoc]
    exact (ih behind).literal_joined text
  | splice run tail ih =>
    rw [joined_splice, List.append_assoc]
    exact .splice run (ih behind)

theorem joined_before_splice (before after second : List Segment) (s : Splice) :
    Template.joined (before ++ .splice s :: after) second =
      before ++ .splice s :: Template.joined after second := by
  induction before with
  | nil => exact joined_splice s after second
  | cons segment before ih =>
    obtain ⟨next, rest, same⟩ : ∃ next rest, before ++ .splice s :: after = next :: rest :=
      List.exists_cons_of_ne_nil (by simp)
    rw [List.cons_append, same, joined_cons_cons, ← same, ih, List.cons_append]

theorem joined_behind_splice (first before after : List Segment) (s : Splice) :
    Template.joined first (before ++ .splice s :: after) =
      Template.joined first before ++ .splice s :: after := by
  induction first with
  | nil => rfl
  | cons segment rest ih =>
    cases rest with
    | cons next rest => rw [joined_cons_cons, ih, joined_cons_cons, List.cons_append]
    | nil =>
      cases segment with
      | splice t => rw [joined_splice, ih, joined_splice, List.cons_append]
      | literal text => cases before with
        | nil => rfl
        | cons segment before => cases segment <;> rfl

theorem Rendered.unchanged {text : List Char} (rendered : Rendered r names first text final)
    (free : ∀ s ∈ splices first, bound s.call = []) : final = names := by
  induction rendered with
  | done names => rfl
  | literal text tail ih => exact ih free
  | splice run tail ih =>
    have same := unchanged_of_renderSegment (free _ List.mem_cons_self) run
    cases same
    exact ih fun s member => free s (List.mem_cons_of_mem _ member)

end

section

variable {r : Markup.Registry} {a b source : List Char} {first second : List Segment}

/-- Where splices stand has no influence on what they render to. -/
theorem render_moved (segments : List Segment) (distance : Nat) (names : OrderedMap Value) :
    render ⟨source, segments.map (Segment.moved distance)⟩ names r =
      render ⟨b, segments⟩ names r := by
  have same : renderSegment ∘ Segment.moved distance = renderSegment := by
    funext segment
    cases segment <;> rfl
  simp only [render, List.mapM_map, same]

theorem render_joined (free : ∀ s ∈ splices first, bound s.call = []) (names : OrderedMap Value) :
    render ⟨source, joined first second⟩ names r = (do
      let x ← render ⟨a, first⟩ names r
      let y ← render ⟨b, second⟩ names r
      Value.operate .add x y) := by
  cases left : render ⟨a, first⟩ names r with
  | error f =>
    obtain ⟨before, s, after, text, reached, same, rendered, failed⟩ := render_eq_error_iff.1 left
    refine render_eq_error_iff.2
      ⟨before, s, joined after second, text, reached, ?_, rendered, failed⟩
    dsimp only at same ⊢
    rw [same, joined_before_splice]
  | ok x =>
    obtain ⟨text, final, rendered, rfl⟩ := render_eq_ok_iff.1 left
    obtain rfl := rendered.unchanged free
    cases right : render ⟨b, second⟩ names r with
    | error f =>
      obtain ⟨before, s, after, more, reached, same, behind, failed⟩ := render_eq_error_iff.1 right
      refine render_eq_error_iff.2
        ⟨joined first before, s, after, text ++ more, reached, ?_, rendered.joined behind, failed⟩
      dsimp only at same ⊢
      rw [same, joined_behind_splice]
    | ok y =>
      obtain ⟨more, final', behind, rfl⟩ := render_eq_ok_iff.1 right
      have both : Value.operate .add (.markup (String.ofList text)) (.markup (String.ofList more)) =
          .ok (.markup (String.ofList text ++ String.ofList more)) := rfl
      refine Eq.trans ?_ both.symm
      rw [← String.ofList_append]
      exact render_eq_ok_iff.2 ⟨text ++ more, final', rendered.joined behind, rfl⟩

end

/-! ### Templates that are remembered -/

/-- What is remembered of sources is what they are divided into. -/
def Memory.Sound (m : Memory) : Prop :=
  ∀ entry ∈ m, scan entry.1 = .ok entry.2

theorem Memory.divide_eq {m : Memory} (sound : m.Sound) (source : List Char) :
    (m.divide source).1 = scan source ∧ (m.divide source).2.Sound := by
  unfold Memory.divide
  split
  · rename_i entry found
    have member := List.mem_of_find?_eq_some found
    have same : entry.1 = source := by simpa using List.find?_some found
    refine ⟨by rw [← same, sound entry member], fun other among => ?_⟩
    rcases List.mem_cons.1 among with rfl | among
    · exact sound other member
    · exact sound other (List.mem_filter.1 among).1
  · split
    · rename_i segments scanned
      refine ⟨scanned.symm, fun other among => ?_⟩
      rcases List.mem_cons.1 (List.mem_of_mem_take among) with rfl | among
      · exact scanned
      · exact sound other among
    · rename_i f failed
      exact ⟨failed.symm, sound⟩

section

variable {r : Markup.Registry} {m : Memory}

/-- A request is answered as if its template were made and rendered alone. -/
theorem Memory.answer_eq (sound : m.Sound) (q : Request) :
    (m.answer r q).1 = (ofSource? q.source >>= fun t => t.render q.names r) ∧
      (m.answer r q).2.Sound := by
  obtain ⟨divided, kept⟩ := m.divide_eq sound q.source
  unfold Memory.answer ofSource?
  rw [← divided]
  split
  · rename_i segments m' same
    rw [same] at kept ⊢
    exact ⟨rfl, kept⟩
  · rename_i f m' same
    rw [same] at kept ⊢
    exact ⟨rfl, kept⟩

theorem Memory.answers_eq (sound : m.Sound) (requests : List Request) :
    m.answers r requests =
      requests.map fun q => ofSource? q.source >>= fun t => t.render q.names r := by
  induction requests generalizing m with
  | nil => rfl
  | cons q rest ih =>
    obtain ⟨alone, kept⟩ := Memory.answer_eq (r := r) sound q
    rw [Memory.answers, List.map_cons, ← alone, ← ih kept]

end

/-! ### Splices one after the other -/

/-- Splices are evaluated once and in order, and what they bind flows only forward. -/
structure FlowsForward (r : Markup.Registry) (t : Template) (names : OrderedMap Value) : Prop where
  succeeds : ∀ v, render t names r = .ok v ↔
    ∃ text final, Rendered r (initialNames names) t.segments text final ∧
      v = .markup (String.ofList text)
  fails : ∀ f, render t names r = .error f ↔
    ∃ before s after text reached, t.segments = before ++ .splice s :: after ∧
      Rendered r (initialNames names) before text reached ∧
      (renderSegment (.splice s)).run { names := reached, registry := r } = .error f
  /-- A splice finds the names given, the constructor, and what splices before it have bound. -/
  finds : ∀ before text reached, before <+: t.segments →
    Rendered r (initialNames names) before text reached →
    ∃ made, (∀ b ∈ made, ∃ s ∈ splices before, b.1 ∈ bound s.call) ∧
      reached = bindAll (initialNames names) made

/-- Whether a template can be made of a source and assigns to nothing. -/
def assignsNothing (source : List Char) : Bool :=
  match ofSource? source with
  | .ok t => (splices t.segments).all fun s => (bound s.call).isEmpty
  | .error _ => false

theorem exists_template_of_assignsNothing (source : List Char)
    (holds : assignsNothing source = true) :
    ∃ t, ofSource? source = .ok t ∧ ∀ s ∈ splices t.segments, bound s.call = [] := by
  unfold assignsNothing at holds
  split at holds
  · rename_i t made
    exact ⟨t, made, by simpa using holds⟩
  · cases holds

end TypstMarkup.Template
