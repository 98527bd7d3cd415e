import Mathlib.Data.List.Nodup
import Mathlib.Data.Option.Basic
import OntoWrap.Ontology.Index
import OntoWrap.Proofs.Lookups

/-!
# What the index of a store holds

Facts about `Index.ofStore` that hold for every store: which statements make a class
(`mem_classIris`), which a parent (`mem_parentsOf`) and which a property
(`exists_property_ofStore_iff`).  No two classes have one IRI, a parent is always a class of the
index (`wellFormed_ofStore`), and no class is the root or its own parent.  Properties come in the
order of their IRIs (`pairwise_iri_properties`).  What is read of one subject depends on nothing
else (`cardinalityOf_congr` and its neighbours).  The index of statements that are written out is
found by evaluation (`Index.inserted`).
-/
namespace OntoWrap

open Vocabulary

namespace Index

/-! ## 1. Classes -/

/-- A class is what is declared as one in some graph, but for the root. -/
theorem mem_classIris {store : Store} {iri : String} :
    iri ∈ classIris store ↔ isRootType iri = false ∧ ∃ type ∈ classTypes, ∃ graph,
      ⟨.iri iri, .iri rdfType, .iri type, graph⟩ ∈ store.toList := by
  simp only [classIris, instancesOf, List.mem_filter, mem_ascending, List.mem_flatMap,
    Store.mem_subjects, Bool.not_eq_true', and_comm]

theorem nodup_classIris (store : Store) : (classIris store).Nodup :=
  (nodup_ascending _).filter _

/-- The IRIs of the indexed classes are those that the store declares. -/
theorem iris_classes_ofStore (store : Store) :
    (ofStore store).classes.map (·.iri) = classIris store := by
  simp [ofStore, classInfo, Function.comp_def]

theorem mem_classes_ofStore {store : Store} {c : ClassInfo} :
    c ∈ (ofStore store).classes ↔
      c.iri ∈ classIris store ∧ c = classInfo store (classIris store) c.iri := by
  constructor
  · intro hc
    obtain ⟨iri, hiri, rfl⟩ := List.mem_map.mp hc
    exact ⟨hiri, rfl⟩
  · rintro ⟨hiri, hc⟩
    exact List.mem_map.mpr ⟨c.iri, hiri, hc.symm⟩

/-- An indexed class is not the root under either of its names. -/
theorem isRootType_of_mem_classes {store : Store} {c : ClassInfo}
    (hc : c ∈ (ofStore store).classes) : isRootType c.iri = false := by
  have hiri := (mem_classes_ofStore.mp hc).1
  simpa using (List.mem_filter.mp hiri).2

/-! ## 2. Parents -/

theorem mem_iriObjects {store : Store} {subject predicate object : String} :
    object ∈ iriObjects store subject predicate ↔
      ∃ graph, ⟨.iri subject, .iri predicate, .iri object, graph⟩ ∈ store.toList := by
  rw [← Store.mem_objects, iriObjects, List.mem_filterMap]
  simp only [Term.asIri?_eq_some_iff, exists_eq_right]

/-- A parent is a class other than the class itself that some statement puts above it. -/
theorem mem_parentsOf {store : Store} {classes : List String} {iri parent : String} :
    parent ∈ parentsOf store classes iri ↔
      (∃ graph, ⟨.iri iri, .iri rdfsSubClassOf, .iri parent, graph⟩ ∈ store.toList) ∧
        parent ≠ iri ∧ parent ∈ classes := by
  simp only [parentsOf, List.mem_filter, mem_iriObjects, Bool.and_eq_true, bne_iff_ne,
    List.contains_iff_mem]

/-- **What every walk over an index relies on**: an IRI names one class at most, and a listed parent
is a class of the index. -/
structure WellFormed (index : Index) : Prop where
  distinct : (index.classes.map (·.iri)).Nodup
  declared : ∀ c ∈ index.classes, ∀ p ∈ c.parents, ∃ d ∈ index.classes, d.iri = p

theorem wellFormed_ofStore (store : Store) : (ofStore store).WellFormed where
  distinct := by
    rw [iris_classes_ofStore]
    exact nodup_classIris store
  declared := by
    intro c hc p hp
    rw [(mem_classes_ofStore.mp hc).2] at hp
    have hdeclared : p ∈ (ofStore store).classes.map (·.iri) := by
      rw [iris_classes_ofStore]
      exact (mem_parentsOf.mp hp).2.2
    obtain ⟨d, hd, hiri⟩ := List.mem_map.mp hdeclared
    exact ⟨d, hd, hiri⟩

namespace WellFormed

variable {index : Index}

/-- Classes with one IRI are one class. -/
theorem eq_of_iri_eq (h : index.WellFormed) {c d : ClassInfo} (hc : c ∈ index.classes)
    (hd : d ∈ index.classes) (hiri : c.iri = d.iri) : c = d :=
  List.inj_on_of_nodup_map h.distinct hc hd hiri

/-- A class of the index is found under its IRI. -/
theorem class?_of_mem (h : index.WellFormed) {c : ClassInfo} (hc : c ∈ index.classes) :
    index.class? c.iri = some c := by
  cases hfound : index.class? c.iri with
  | none => exact absurd (List.find?_eq_none.mp hfound c hc) (by simp)
  | some d => rw [h.eq_of_iri_eq (mem_of_class? hfound) hc (iri_of_class? hfound)]

end WellFormed

/-- A class is below the root alone if nothing but itself and undeclared IRIs stands above it. -/
theorem isRootLevel_of_mem_classes {store : Store} {c : ClassInfo}
    (hc : c ∈ (ofStore store).classes) :
    c.isRootLevel = true ↔ ∀ parent, States store.toList c.iri rdfsSubClassOf (.iri parent) →
      parent ∈ classIris store → parent = c.iri := by
  rw [ClassInfo.isRootLevel, List.isEmpty_iff, List.eq_nil_iff_forall_not_mem,
    (mem_classes_ofStore.mp hc).2]
  refine forall_congr' fun parent => ?_
  rw [classInfo, mem_parentsOf]
  unfold States
  tauto

/-! ## 3. Properties -/

theorem mem_instancesOf {store : Store} {types : List String} {iri : String} :
    iri ∈ instancesOf store types ↔
      ∃ type ∈ types, States store.toList iri rdfType (.iri type) := by
  simp only [instancesOf, mem_ascending, List.mem_flatMap, Store.mem_subjects, States]

theorem iri_of_propertyInfo? {store : Store} {iri : String} {p : PropertyInfo}
    (h : propertyInfo? store iri = some p) : p.iri = iri := by
  obtain ⟨range, -, rfl⟩ := Option.map_eq_some_iff.mp h
  rfl

theorem domains_of_propertyInfo? {store : Store} {iri : String} {p : PropertyInfo}
    (h : propertyInfo? store iri = some p) : p.domains = iriObjects store iri rdfsDomain := by
  obtain ⟨range, -, rfl⟩ := Option.map_eq_some_iff.mp h
  rfl

/-- A property has an entry if some IRI is its range. -/
theorem exists_propertyInfo?_iff {store : Store} {iri : String} :
    (∃ p, propertyInfo? store iri = some p) ↔
      ∃ range, States store.toList iri rdfsRange (.iri range) := by
  have hrange : ∀ range, range ∈ iriObjects store iri rdfsRange ↔
      States store.toList iri rdfsRange (.iri range) := fun _ => mem_iriObjects
  simp only [← hrange, propertyInfo?]
  cases iriObjects store iri rdfsRange with
  | nil => simp
  | cons range rest => simp

theorem mem_properties_ofStore {store : Store} {p : PropertyInfo} :
    p ∈ (ofStore store).properties ↔
      p.iri ∈ instancesOf store propertyTypes ∧ propertyInfo? store p.iri = some p := by
  constructor
  · intro hp
    obtain ⟨iri, hiri, hinfo⟩ := List.mem_filterMap.mp hp
    rw [iri_of_propertyInfo? hinfo]
    exact ⟨hiri, hinfo⟩
  · rintro ⟨hiri, hinfo⟩
    exact List.mem_filterMap.mpr ⟨p.iri, hiri, hinfo⟩

/-- The domains of a property are the IRIs that some statement gives it as domains. -/
theorem mem_domains_ofStore {store : Store} {p : PropertyInfo} (hp : p ∈ (ofStore store).properties)
    {domain : String} :
    domain ∈ p.domains ↔ States store.toList p.iri rdfsDomain (.iri domain) := by
  rw [domains_of_propertyInfo? (mem_properties_ofStore.mp hp).2]
  exact mem_iriObjects

/-- A property is what is declared as one in some graph and has an IRI for a range. -/
theorem exists_property_ofStore_iff {store : Store} {iri : String} :
    (∃ p ∈ (ofStore store).properties, p.iri = iri) ↔
      (∃ type ∈ propertyTypes, States store.toList iri rdfType (.iri type)) ∧
        ∃ range, States store.toList iri rdfsRange (.iri range) := by
  rw [← mem_instancesOf, ← exists_propertyInfo?_iff]
  constructor
  · rintro ⟨p, hp, rfl⟩
    obtain ⟨hdeclared, hinfo⟩ := mem_properties_ofStore.mp hp
    exact ⟨hdeclared, p, hinfo⟩
  · rintro ⟨hdeclared, p, hinfo⟩
    obtain rfl := iri_of_propertyInfo? hinfo
    exact ⟨p, mem_properties_ofStore.mpr ⟨hdeclared, hinfo⟩, rfl⟩

/-- Properties come in the order of their IRIs. -/
theorem pairwise_iri_properties (store : Store) :
    ((ofStore store).properties.map (·.iri)).Pairwise fun a b => compare a b = .lt := by
  rw [List.pairwise_map]
  refine List.pairwise_filterMap.mpr ((pairwise_ascending _).imp fun {a b} hlt p hp q hq => ?_)
  rwa [iri_of_propertyInfo? hp, iri_of_propertyInfo? hq]

/-! ## 4. What is read of one subject -/

section Congruence

variable {s t : Store} {subject : String}

theorem iriObjects_congr {predicate : String}
    (h : ∀ object, States s.toList subject predicate object ↔
      States t.toList subject predicate object) :
    iriObjects s subject predicate = iriObjects t subject predicate := by
  rw [iriObjects, iriObjects, Store.objects_congr h]

theorem firstLiteral?_congr {predicate : String}
    (h : ∀ object, States s.toList subject predicate object ↔
      States t.toList subject predicate object) :
    firstLiteral? s subject predicate = firstLiteral? t subject predicate := by
  rw [firstLiteral?, firstLiteral?, Store.objects_congr h]

theorem cardinalityOf_congr
    (h : ∀ predicate object,
      States s.toList subject predicate object ↔ States t.toList subject predicate object) :
    cardinalityOf s subject = cardinalityOf t subject := by
  simp only [cardinalityOf, Store.objects_congr (h _), Store.contains_congr (h _ _)]

end Congruence

end Index

/-! ## 5. Statements that are written out

Sorting goes by well-founded recursion, which does not evaluate, and insertion goes by recursion on
the list.  The functions below are what the look-ups in listed statements unfold to, with insertion
for sorting (`ascending_eq_foldr`), so that `decide` finds an abbreviation or an index through
them. -/

/-- The abbreviations of entities in listed statements, with every set built by insertion. -/
def Abbreviation.inserted : { abbreviation : List Statement → String → String //
    ∀ statements, ofEntity (.ofList statements) = abbreviation statements } :=
  ⟨_, fun statements => by
    delta ofEntity declared?
    simp only [graphsOf, Store.objects, Store.matching, Store.toList_ofList, ascending_eq_foldr]
    rfl⟩

/-- The index of listed statements, with every set built by insertion. -/
def Index.inserted : { index : List Statement → Index //
    ∀ statements, ofStore (.ofList statements) = index statements } :=
  ⟨_, fun statements => by
    unfold ofStore
    delta classInfo propertyInfo? cardinalityOf
    simp only [classIris, instancesOf, parentsOf, iriObjects, firstLiteral?,
      Abbreviation.inserted.property, Store.subjects, Store.objects, Store.contains,
      Store.matching, Store.toList_ofList, ascending_eq_foldr]
    rfl⟩

end OntoWrap
