import OntoWrap.Proofs.Ancestry

/-!
# The hierarchy in the plans of a rendered index

When an index is rendered, each class has exactly one plan, and the plans refer to one another as
the classes of the index stand to one another.  A parent or an ancestor that a plan names is the
class of another plan (`exists_unit_of_mem_parents`, `exists_unit_of_mem_ancestors`), the ancestors
named are all classes above, each once (`mem_iri_ancestors_iff`, `nodup_iri_ancestors`), and a class
with parents has an ancestor that hangs directly off the root (`exists_rootLevel_ancestor`).
-/
namespace OntoWrap

namespace Index

variable {index : Index} {c : ClassInfo}

/-! ## 1. Parents and lineages -/

/-- The parents of a class are found under their IRIs, in their order. -/
theorem WellFormed.map_iri_directParents (hw : index.WellFormed) (hc : c ∈ index.classes) :
    (index.directParents c).map (·.iri) = c.parents := by
  have hfound : ∀ p ∈ c.parents, (index.class? p).map (·.iri) = some p := by
    intro p hp
    obtain ⟨d, hd, rfl⟩ := hw.declared c hc p hp
    rw [hw.class?_of_mem hd]
    rfl
  rw [directParents, List.map_filterMap]
  calc c.parents.filterMap (fun p => (index.class? p).map (·.iri))
      = c.parents.filterMap some := List.filterMap_congr hfound
    _ = c.parents := List.filterMap_some

theorem mem_classes_of_mem_directParents {d : ClassInfo} (hd : d ∈ index.directParents c) :
    d ∈ index.classes := by
  obtain ⟨p, -, hp⟩ := List.mem_filterMap.mp hd
  exact mem_of_class? hp

/-- **The first class of a lineage has no parents**: they would have to come before it. -/
theorem Lineage.exists_parentless {start : String} {chain : List ClassInfo}
    (h : index.Lineage start chain) (hne : chain ≠ []) : ∃ d ∈ chain, d.parents = [] := by
  obtain ⟨d, later, rfl⟩ := List.exists_cons_of_ne_nil hne
  refine ⟨d, List.mem_cons_self, List.eq_nil_iff_forall_not_mem.mpr fun p hp => ?_⟩
  have hparent : index.Parent d.iri p := ⟨d, h.declared d List.mem_cons_self, rfl, hp⟩
  simpa using h.ordered [] d later rfl p (.single hparent)

/-- A class with parents has somebody in its lineage. -/
theorem Lineage.ne_nil {chain : List ClassInfo} (h : index.Lineage c.iri chain)
    (hc : c ∈ index.classes) (hparents : c.parents ≠ []) : chain ≠ [] := by
  rintro rfl
  obtain ⟨p, hp⟩ := List.exists_mem_of_ne_nil _ hparents
  have hmem : p ∈ ([] : List ClassInfo).map (·.iri) := (h.complete p).mpr (.single ⟨c, hc, rfl, hp⟩)
  simp at hmem

/-! ## 2. What a plan says of its class -/

/-- **The plan of a class in an index**: it refers to the class, its parents, and its lineage. -/
structure PlanOf (index : Index) (c : ClassInfo) (chain : List ClassInfo) (unit : ClassUnit) :
    Prop where
  declared : c ∈ index.classes
  self : unit.self = .ofClass c
  parents : unit.parents = (index.directParents c).map .ofClass
  walked : index.ancestors c = .ok chain
  lineage : index.Lineage c.iri chain
  ancestors : unit.ancestors = chain.map .ofClass

theorem planOf_of_plan (hw : index.WellFormed) (hc : c ∈ index.classes) {declare : String → String}
    {unit : ClassUnit} (hplan : index.plan declare c = .ok unit) :
    ∃ chain, index.PlanOf c chain unit := by
  obtain ⟨chain, hwalked, named, -, rfl⟩ := plan_eq_ok_iff.mp hplan
  have hsettles := ancestors_settles hw hc
  rw [hwalked] at hsettles
  cases hsettles with
  | lineage hlineage => exact ⟨chain, hc, rfl, rfl, hwalked, hlineage, rfl⟩

namespace PlanOf

variable {chain : List ClassInfo} {unit : ClassUnit}

theorem iri (h : index.PlanOf c chain unit) : unit.self.iri = c.iri := by
  rw [h.self]
  rfl

theorem iri_ancestors (h : index.PlanOf c chain unit) :
    unit.ancestors.map (·.iri) = chain.map (·.iri) := by
  rw [h.ancestors, List.map_map]
  rfl

/-- A plan without parents is that of a class without parents. -/
theorem isRootLevel_iff (hw : index.WellFormed) (h : index.PlanOf c chain unit) :
    unit.isRootLevel = true ↔ c.parents = [] := by
  have hiris := hw.map_iri_directParents h.declared
  rw [ClassUnit.isRootLevel, h.parents, List.isEmpty_iff, List.map_eq_nil_iff, ← hiris,
    List.map_eq_nil_iff]

end PlanOf

end Index

theorem ClassUnit.isRootLevel_eq_false_iff {unit : ClassUnit} :
    unit.isRootLevel = false ↔ unit.parents ≠ [] :=
  List.isEmpty_eq_false_iff

/-! ## 3. The plans of all classes -/

section Rendered

open Index

variable {store : Store} {renderer : Renderer} {rendering : Rendering} {unit : ClassUnit}

/-- Every plan is that of a class. -/
theorem exists_planOf_of_mem (h : renderAll (ofStore store) renderer = .ok rendering)
    (hunit : unit ∈ rendering.units) : ∃ c chain, (ofStore store).PlanOf c chain unit := by
  obtain ⟨c, hc, hplan⟩ := exists_class_of_renderAll h hunit
  obtain ⟨chain, hchain⟩ := planOf_of_plan (wellFormed_ofStore store) hc hplan
  exact ⟨c, chain, hchain⟩

/-- Every class has a plan. -/
theorem exists_unit_of_mem_classes (h : renderAll (ofStore store) renderer = .ok rendering)
    {c : ClassInfo} (hc : c ∈ (ofStore store).classes) :
    ∃ unit ∈ rendering.units, ∃ chain, (ofStore store).PlanOf c chain unit := by
  obtain ⟨unit, hunit, hplan⟩ := exists_plan_of_renderAll h hc
  exact ⟨unit, hunit, planOf_of_plan (wellFormed_ofStore store) hc hplan⟩

/-- The plans come in the order of the classes, one for each. -/
theorem map_iri_units (h : renderAll (ofStore store) renderer = .ok rendering) :
    rendering.units.map (·.self.iri) = (ofStore store).classes.map (·.iri) := by
  have hiris : List.Forall₂ (· = ·) (rendering.units.map (·.self.iri))
      ((ofStore store).classes.map (·.iri)) := by
    rw [List.forall₂_map_left_iff, List.forall₂_map_right_iff]
    refine (renderAll_eq_ok_iff.mp h).1.flip.imp fun unit c hplan => ?_
    rw [self_of_plan hplan]
    rfl
  rwa [List.forall₂_eq_eq_eq] at hiris

/-- Plans of one IRI are one plan. -/
theorem unit_eq_of_iri_eq (h : renderAll (ofStore store) renderer = .ok rendering)
    {u v : ClassUnit} (hu : u ∈ rendering.units) (hv : v ∈ rendering.units)
    (hiri : u.self.iri = v.self.iri) : u = v := by
  have hdistinct : (rendering.units.map (·.self.iri)).Nodup := by
    rw [map_iri_units h]
    exact (wellFormed_ofStore store).distinct
  exact List.inj_on_of_nodup_map hdistinct hu hv hiri

/-- How a plan refers to a class is how the plan of that class refers to it. -/
theorem exists_unit_of_ofClass (h : renderAll (ofStore store) renderer = .ok rendering)
    {d : ClassInfo} (hd : d ∈ (ofStore store).classes) :
    ∃ target ∈ rendering.units, target.self = .ofClass d := by
  obtain ⟨target, htarget, _, hplan⟩ := exists_unit_of_mem_classes h hd
  exact ⟨target, htarget, hplan.self⟩

/-- **A parent that a plan names is the class of another plan**, one step up. -/
theorem exists_unit_of_mem_parents (h : renderAll (ofStore store) renderer = .ok rendering)
    (hunit : unit ∈ rendering.units) {parent : ClassRef} (hparent : parent ∈ unit.parents) :
    ∃ target ∈ rendering.units, target.self = parent ∧
      (ofStore store).Parent unit.self.iri target.self.iri := by
  obtain ⟨c, chain, hplan⟩ := exists_planOf_of_mem h hunit
  rw [hplan.parents] at hparent
  obtain ⟨d, hd, rfl⟩ := List.mem_map.mp hparent
  obtain ⟨target, htarget, hself⟩ := exists_unit_of_ofClass h (mem_classes_of_mem_directParents hd)
  refine ⟨target, htarget, hself, c, hplan.declared, hplan.iri.symm, ?_⟩
  rw [hself, ← (wellFormed_ofStore store).map_iri_directParents hplan.declared]
  exact List.mem_map_of_mem hd

/-- **An ancestor that a plan names is the class of another plan**, further up. -/
theorem exists_unit_of_mem_ancestors (h : renderAll (ofStore store) renderer = .ok rendering)
    (hunit : unit ∈ rendering.units) {ancestor : ClassRef} (hancestor : ancestor ∈ unit.ancestors) :
    ∃ target ∈ rendering.units, target.self = ancestor ∧
      (ofStore store).Above unit.self.iri target.self.iri := by
  obtain ⟨c, chain, hplan⟩ := exists_planOf_of_mem h hunit
  rw [hplan.ancestors] at hancestor
  obtain ⟨d, hd, rfl⟩ := List.mem_map.mp hancestor
  obtain ⟨target, htarget, hself⟩ := exists_unit_of_ofClass h (hplan.lineage.declared d hd)
  refine ⟨target, htarget, hself, ?_⟩
  rw [hself, hplan.iri]
  exact (hplan.lineage.complete _).mp (List.mem_map_of_mem hd)

/-- **The ancestors that a plan names are all classes above**... -/
theorem mem_iri_ancestors_iff (h : renderAll (ofStore store) renderer = .ok rendering)
    (hunit : unit ∈ rendering.units) {iri : String} :
    iri ∈ unit.ancestors.map (·.iri) ↔ (ofStore store).Above unit.self.iri iri := by
  obtain ⟨c, chain, hplan⟩ := exists_planOf_of_mem h hunit
  rw [hplan.iri_ancestors, hplan.iri]
  exact hplan.lineage.complete iri

/-- ...and each is named once. -/
theorem nodup_iri_ancestors (h : renderAll (ofStore store) renderer = .ok rendering)
    (hunit : unit ∈ rendering.units) : (unit.ancestors.map (·.iri)).Nodup := by
  obtain ⟨c, chain, hplan⟩ := exists_planOf_of_mem h hunit
  rw [hplan.iri_ancestors]
  exact hplan.lineage.distinct

/-- A class is named as a parent by the classes directly below it. -/
theorem self_mem_parents_iff (h : renderAll (ofStore store) renderer = .ok rendering)
    (hunit : unit ∈ rendering.units) {target : ClassUnit} (htarget : target ∈ rendering.units) :
    target.self ∈ unit.parents ↔ (ofStore store).Parent unit.self.iri target.self.iri := by
  have hw := wellFormed_ofStore store
  constructor
  · intro hmem
    obtain ⟨other, -, hself, hparent⟩ := exists_unit_of_mem_parents h hunit hmem
    rwa [hself] at hparent
  · intro hparent
    obtain ⟨c, chain, hplan⟩ := exists_planOf_of_mem h hunit
    rw [hplan.iri, hw.parent_iff hplan.declared,
      ← hw.map_iri_directParents hplan.declared] at hparent
    obtain ⟨d, hd, hiri⟩ := List.mem_map.mp hparent
    have hmem : ClassRef.ofClass d ∈ unit.parents := by
      rw [hplan.parents]
      exact List.mem_map_of_mem hd
    obtain ⟨other, hother, hself, -⟩ := exists_unit_of_mem_parents h hunit hmem
    obtain rfl := unit_eq_of_iri_eq h hother htarget (by rw [hself]; exact hiri)
    rwa [hself]

/-- No class is above itself. -/
theorem not_above_self (h : renderAll (ofStore store) renderer = .ok rendering) (iri : String) :
    ¬ (ofStore store).Above iri iri := by
  intro hcycle
  obtain ⟨-, ⟨c, hc, rfl, -⟩, -⟩ := Relation.TransGen.head'_iff.mp hcycle
  obtain ⟨_, -, _, hplan⟩ := exists_unit_of_mem_classes h hc
  exact hplan.lineage.not_meetsCycle ⟨c.iri, .refl, hcycle⟩

/-- A class without parents has no ancestors. -/
theorem ancestors_eq_nil (h : renderAll (ofStore store) renderer = .ok rendering)
    (hunit : unit ∈ rendering.units) (hroot : unit.isRootLevel = true) : unit.ancestors = [] := by
  have hw := wellFormed_ofStore store
  obtain ⟨c, chain, hplan⟩ := exists_planOf_of_mem h hunit
  refine List.eq_nil_iff_forall_not_mem.mpr fun ancestor hancestor => ?_
  obtain ⟨target, -, -, habove⟩ := exists_unit_of_mem_ancestors h hunit hancestor
  obtain ⟨parent, hparent, -⟩ := Relation.TransGen.head'_iff.mp habove
  rw [hplan.iri, hw.parent_iff hplan.declared, (hplan.isRootLevel_iff hw).mp hroot] at hparent
  cases hparent

/-- **A class with parents has an ancestor without.** -/
theorem exists_rootLevel_ancestor (h : renderAll (ofStore store) renderer = .ok rendering)
    (hunit : unit ∈ rendering.units) (hparents : unit.isRootLevel = false) :
    ∃ root ∈ rendering.units, root.self ∈ unit.ancestors ∧ root.isRootLevel = true := by
  have hw := wellFormed_ofStore store
  obtain ⟨c, chain, hplan⟩ := exists_planOf_of_mem h hunit
  have hc : c.parents ≠ [] := by
    intro hnone
    rw [(hplan.isRootLevel_iff hw).mpr hnone] at hparents
    cases hparents
  obtain ⟨d, hd, hnone⟩ :=
    hplan.lineage.exists_parentless (hplan.lineage.ne_nil hplan.declared hc)
  obtain ⟨root, hroot, _, hrootPlan⟩ := exists_unit_of_mem_classes h (hplan.lineage.declared d hd)
  refine ⟨root, hroot, ?_, (hrootPlan.isRootLevel_iff hw).mpr hnone⟩
  rw [hrootPlan.self, hplan.ancestors]
  exact List.mem_map_of_mem hd

end Rendered

end OntoWrap
