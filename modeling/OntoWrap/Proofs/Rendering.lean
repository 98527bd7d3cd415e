import Mathlib.Data.List.Forall2
import OntoWrap.Generation

/-!
# When planning and rendering succeed

What it takes for a class to have a plan (`plan_eq_ok_iff`) and for an index to be rendered
(`renderAll_eq_ok_iff`).  Other modules use these and do not open the definitions.
-/
namespace OntoWrap

/-! ## 1. Steps that may fail -/

variable {α β ε ε' : Type}

/-- One step after another succeeds if the first does and the second does on its result. -/
theorem bind_eq_ok_iff {x : Except ε α} {f : α → Except ε β} {b : β} :
    (x >>= f) = .ok b ↔ ∃ a, x = .ok a ∧ f a = .ok b := by
  cases x <;> simp [bind, Except.bind]

theorem pure_eq_ok_iff {a b : α} : (pure a : Except ε α) = .ok b ↔ a = b := by
  simp [pure, Except.pure]

theorem mapError_eq_ok_iff {f : ε → ε'} {x : Except ε α} {a : α} :
    x.mapError f = .ok a ↔ x = .ok a := by
  cases x <;> simp [Except.mapError]

/-- A list of steps succeeds if each of them does. -/
theorem mapM_eq_ok_iff {f : α → Except ε β} {l : List α} {results : List β} :
    l.mapM f = .ok results ↔ List.Forall₂ (fun a b => f a = .ok b) l results := by
  induction l generalizing results with
  | nil =>
    rw [List.mapM_nil, pure_eq_ok_iff, List.forall₂_nil_left_iff]
    exact eq_comm
  | cons a l ih =>
    simp only [List.mapM_cons, bind_eq_ok_iff, pure_eq_ok_iff, ih, List.forall₂_cons_left_iff]
    constructor
    · rintro ⟨b, hb, bs, hbs, rfl⟩
      exact ⟨b, bs, hb, hbs, rfl⟩
    · rintro ⟨b, bs, hb, hbs, rfl⟩
      exact ⟨b, hb, bs, hbs, rfl⟩

/-- What succeeds on a whole list succeeds on each member. -/
theorem exists_of_forall₂ {R : α → β → Prop} {l : List α} {results : List β}
    (h : List.Forall₂ R l results) : ∀ a ∈ l, ∃ b ∈ results, R a b := by
  induction h with
  | nil => simp
  | @cons a b l results hab _ ih =>
    intro x hx
    rcases List.mem_cons.mp hx with rfl | hx
    · exact ⟨b, List.mem_cons_self, hab⟩
    · obtain ⟨y, hy, hxy⟩ := ih x hx
      exact ⟨y, List.mem_cons_of_mem _ hy, hxy⟩

/-! ## 2. Plans -/

/-- A class has a plan if its ancestors can be listed and its properties told apart. -/
theorem plan_eq_ok_iff {index : Index} {declare : String → String} {c : ClassInfo}
    {unit : ClassUnit} :
    index.plan declare c = .ok unit ↔ ∃ ancestors, index.ancestors c = .ok ancestors ∧
      ∃ named, Naming.disambiguate c.iri declare (index.effectiveProperties c) = .ok named ∧
      { self := .ofClass c
        label := c.label
        comment := c.comment.map Text.normalize
        parents := (index.directParents c).map .ofClass
        ancestors := ancestors.map .ofClass
        accessors := named.map .ofProperty } = unit := by
  simp only [Index.plan, bind_eq_ok_iff, mapError_eq_ok_iff, pure_eq_ok_iff]

/-- ...and these two are all it takes. -/
theorem exists_plan_iff {index : Index} {declare : String → String} {c : ClassInfo} :
    (∃ unit, index.plan declare c = .ok unit) ↔
      (∃ ancestors, index.ancestors c = .ok ancestors) ∧
        ∃ named, Naming.disambiguate c.iri declare (index.effectiveProperties c) = .ok named := by
  constructor
  · rintro ⟨unit, h⟩
    obtain ⟨ancestors, hancestors, named, hnamed, -⟩ := plan_eq_ok_iff.mp h
    exact ⟨⟨ancestors, hancestors⟩, named, hnamed⟩
  · rintro ⟨⟨ancestors, hancestors⟩, named, hnamed⟩
    exact ⟨_, plan_eq_ok_iff.mpr ⟨ancestors, hancestors, named, hnamed, rfl⟩⟩

/-- A plan refers to its class. -/
theorem self_of_plan {index : Index} {declare : String → String} {c : ClassInfo} {unit : ClassUnit}
    (h : index.plan declare c = .ok unit) : unit.self = .ofClass c := by
  obtain ⟨-, -, named, -, rfl⟩ := plan_eq_ok_iff.mp h
  rfl

/-! ## 3. All outputs -/

/-- An index is rendered if every class has a plan and no two outputs share a path. -/
theorem renderAll_eq_ok_iff {index : Index} {renderer : Renderer} {rendering : Rendering} :
    renderAll index renderer = .ok rendering ↔
      List.Forall₂ (fun c unit => index.plan renderer.methodName c = .ok unit)
        index.classes rendering.units ∧
      rendering.outputs = renderer.outputs rendering.units ∧
      sharedPath? [] rendering.outputs = none := by
  obtain ⟨units, outputs⟩ := rendering
  simp only [renderAll, bind_eq_ok_iff, mapM_eq_ok_iff]
  constructor
  · rintro ⟨plans, hplans, hrest⟩
    cases hshared : sharedPath? [] (renderer.outputs plans) with
    | some fault =>
      rw [hshared] at hrest
      cases hrest
    | none =>
      rw [hshared] at hrest
      obtain ⟨rfl, rfl⟩ := Rendering.mk.inj (pure_eq_ok_iff.mp hrest)
      exact ⟨hplans, rfl, hshared⟩
  · rintro ⟨hplans, rfl, hshared⟩
    refine ⟨units, hplans, ?_⟩
    rw [hshared]
    rfl

/-- If an index is rendered, every class of it has a plan. -/
theorem exists_plan_of_renderAll {index : Index} {renderer : Renderer} {rendering : Rendering}
    (h : renderAll index renderer = .ok rendering) {c : ClassInfo} (hc : c ∈ index.classes) :
    ∃ unit ∈ rendering.units, index.plan renderer.methodName c = .ok unit :=
  exists_of_forall₂ (renderAll_eq_ok_iff.mp h).1 c hc

/-- ...and every plan is that of a class. -/
theorem exists_class_of_renderAll {index : Index} {renderer : Renderer} {rendering : Rendering}
    (h : renderAll index renderer = .ok rendering) {unit : ClassUnit}
    (hunit : unit ∈ rendering.units) :
    ∃ c ∈ index.classes, index.plan renderer.methodName c = .ok unit :=
  exists_of_forall₂ (renderAll_eq_ok_iff.mp h).1.flip unit hunit

/-- If an index is rendered, the file of every class of it is among the outputs. -/
theorem exists_output_of_renderAll {index : Index} {renderer : Renderer} {rendering : Rendering}
    (h : renderAll index renderer = .ok rendering) {c : ClassInfo} (hc : c ∈ index.classes) :
    ∃ out ∈ rendering.outputs, renderer.emit index c = .ok out := by
  obtain ⟨unit, hunit, hplan⟩ := exists_plan_of_renderAll h hc
  refine ⟨renderer.render unit, ?_, ?_⟩
  · rw [(renderAll_eq_ok_iff.mp h).2.1, Renderer.outputs]
    exact List.mem_append_left _ (List.mem_map_of_mem hunit)
  · rw [Renderer.emit, hplan]
    rfl

end OntoWrap
