import OntoWrap.Ontology.DomainTable
import OntoWrap.Proofs.IndexEntries
import OntoWrap.Proofs.Tables

/-!
# The index is exact

Whatever statements a store holds, its index has an entry for each declared class and for each
declared property with a range, and for nothing else.  Each entry lists the parents, the range and
the domains that some statement gives it (`Index.Exact`, `Index.exact_ofStore`).  The table of
properties by domain is filled in the same pass as the entries, and looking a domain up in it gives
what a scan of the entries gives (`PropertyTables.withDomain_ofStore`).
-/
namespace OntoWrap

open Vocabulary

/-! ## 1. Order -/

/-- IRIs compare by their names. -/
theorem Term.compare_iri (a b : String) : compare (Term.iri a) (.iri b) = compare a b := by
  have hparts : compare (Term.iri a) (.iri b) =
      (compare 0 0).then ((compare a b).then (compare (none : Option String) none)) := rfl
  rw [hparts, Std.ReflOrd.compare_self, Std.ReflOrd.compare_self, Ordering.eq_then,
    Ordering.then_eq]

namespace Index

variable {store : Store}

theorem pairwise_classIris (store : Store) :
    (classIris store).Pairwise fun a b => compare a b = .lt :=
  (pairwise_ascending _).filter _

/-- The IRIs that a subject has under a predicate ascend. -/
theorem pairwise_iriObjects (store : Store) (subject predicate : String) :
    (iriObjects store subject predicate).Pairwise fun a b => compare a b = .lt := by
  refine List.pairwise_filterMap.mpr ((store.pairwise_objects subject predicate).imp
    fun {term other} hlt a ha b hb => ?_)
  rwa [Term.asIri?_eq_some_iff.mp ha, Term.asIri?_eq_some_iff.mp hb, Term.compare_iri] at hlt

theorem nodup_iriObjects (store : Store) (subject predicate : String) :
    (iriObjects store subject predicate).Nodup :=
  nodup_of_pairwise_lt (pairwise_iriObjects store subject predicate)

/-! ## 2. Ranges -/

/-- **The range of a property is the least IRI that some statement gives it as a range.** -/
theorem range_of_propertyInfo? {iri : String} {p : PropertyInfo}
    (h : propertyInfo? store iri = some p) :
    States store.toList iri rdfsRange (.iri p.range) ∧
      ∀ range, States store.toList iri rdfsRange (.iri range) → (compare p.range range).isLE := by
  obtain ⟨least, hleast, rfl⟩ := Option.map_eq_some_iff.mp h
  have hascends := pairwise_iriObjects store iri rdfsRange
  obtain ⟨rest, hranges⟩ := List.head?_eq_some_iff.mp hleast
  refine ⟨mem_iriObjects.mp (by simp [hranges]), fun range hrange => ?_⟩
  have hmem : range ∈ iriObjects store iri rdfsRange := mem_iriObjects.mpr hrange
  rw [hranges] at hascends hmem
  rcases List.mem_cons.mp hmem with rfl | hlater
  · rw [Std.ReflOrd.compare_self]
    rfl
  · rw [(List.pairwise_cons.mp hascends).1 range hlater]
    rfl

/-- A property is found under its IRI. -/
theorem property?_of_mem {p : PropertyInfo} (hp : p ∈ (ofStore store).properties) :
    (ofStore store).property? p.iri = some p := by
  cases hfound : (ofStore store).property? p.iri with
  | none => exact absurd (List.find?_eq_none.mp hfound p hp) (by simp)
  | some q =>
    have hiri : q.iri = p.iri := by simpa using List.find?_some hfound
    have hinfo := (mem_properties_ofStore.mp (List.mem_of_find?_eq_some hfound)).2
    rw [hiri, (mem_properties_ofStore.mp hp).2] at hinfo
    rw [Option.some.inj hinfo]

end Index

/-! ## 3. The table of domains -/

/-- Of the pairs of a domain and a property, those with one domain tell which properties list it. -/
theorem filter_flatMap_domains {properties : List PropertyInfo}
    (h : ∀ p ∈ properties, p.domains.Nodup) (domain : String) :
    ((properties.flatMap fun p => p.domains.map fun listed => (listed, p.iri)).filter
      (·.1 == domain)).map (·.2) = (properties.filter (·.domains.contains domain)).map (·.iri) := by
  induction properties with
  | nil => rfl
  | cons p rest ih =>
    have hfirst : ((p.domains.map fun listed => (listed, p.iri)).filter (·.1 == domain)).map (·.2) =
        if domain ∈ p.domains then [p.iri] else [] := by
      have hkept : (p.domains.filter (· == domain)).map (fun _ => p.iri) =
          if domain ∈ p.domains then [p.iri] else [] := by
        rw [List.filter_beq, List.Nodup.count (h p List.mem_cons_self)]
        split_ifs <;> rfl
      rw [List.filter_map, List.map_map]
      exact hkept
    rw [List.flatMap_cons, List.filter_append, List.map_append, hfirst,
      ih fun q hq => h q (List.mem_cons_of_mem p hq)]
    by_cases hdomain : domain ∈ p.domains
    · simp [hdomain]
    · simp [hdomain]

namespace PropertyTables

variable {store : Store} {tables : PropertyTables}

/-- The pass over the declared properties fills both tables from the entries that there are.  The
induction is on the IRIs that are still to come. -/
theorem foldl_enter (store : Store) (iris : List String) :
    iris.foldl (enter store) tables =
    { properties := tables.properties ++ iris.filterMap (Index.propertyInfo? store)
      byDomain := tables.byDomain.addAll ((iris.filterMap (Index.propertyInfo? store)).flatMap
        fun p => p.domains.map fun domain => (domain, p.iri)) } := by
  induction iris generalizing tables with
  | nil => simp [Table.addAll]
  | cons iri rest ih =>
    rw [List.foldl_cons, ih, enter]
    cases hinfo : Index.propertyInfo? store iri with
    | none => rw [List.filterMap_cons_none hinfo]
    | some p =>
      rw [List.filterMap_cons_some hinfo, List.flatMap_cons]
      simp [register, Table.addAll]

theorem properties_ofStore (store : Store) :
    (ofStore store).properties = (Index.ofStore store).properties := by
  rw [ofStore, foldl_enter]
  rfl

/-- **Under each domain the table holds the properties that list it**, in the order of their
IRIs. -/
theorem valuesOf_byDomain (store : Store) (domain : String) :
    (ofStore store).byDomain.valuesOf domain =
      ((Index.ofStore store).propertiesWithDomain domain).map (·.iri) := by
  have hdomains : ∀ p ∈ (Index.ofStore store).properties, p.domains.Nodup := by
    intro p hp
    rw [Index.domains_of_propertyInfo? (Index.mem_properties_ofStore.mp hp).2]
    exact Index.nodup_iriObjects store p.iri rdfsDomain
  rw [ofStore, foldl_enter]
  exact (Table.valuesOf_addAll_nil _).trans (filter_flatMap_domains hdomains domain)

/-- **Looking a domain up in the table gives what a scan of the entries gives.** -/
theorem withDomain_ofStore (store : Store) (domain : String) :
    (ofStore store).withDomain domain = (Index.ofStore store).propertiesWithDomain domain := by
  rw [withDomain, valuesOf_byDomain, List.filterMap_map]
  have hfound : ∀ p ∈ (Index.ofStore store).propertiesWithDomain domain,
      ((ofStore store).property? ∘ (·.iri)) p = some p := by
    intro p hp
    rw [Function.comp_apply, property?, properties_ofStore]
    exact Index.property?_of_mem (List.mem_filter.mp hp).1
  rw [List.filterMap_congr hfound, List.filterMap_some]

end PropertyTables

/-! ## 4. Exactness -/

namespace Index

/-- An index holds what a store declares, and nothing else. -/
structure Exact (store : Store) (index : Index) : Prop where
  /-- Classes are the IRIs other than the root that are typed as classes. -/
  mem_classes_iff : ∀ iri, iri ∈ index.classes.map (·.iri) ↔
    (iri ≠ rdfsResource ∧ iri ≠ owlThing) ∧
      (States store.toList iri rdfType (.iri rdfsClass) ∨
        States store.toList iri rdfType (.iri owlClass))
  classes_ascend : (index.classes.map (·.iri)).Pairwise fun a b => compare a b = .lt
  class?_of_mem : ∀ c ∈ index.classes, index.class? c.iri = some c
  /-- Parents are the other classes that a statement puts above a class. -/
  mem_parents_iff : ∀ c ∈ index.classes, ∀ iri, iri ∈ c.parents ↔
    iri ∈ index.classes.map (·.iri) ∧ iri ≠ c.iri ∧
      States store.toList c.iri rdfsSubClassOf (.iri iri)
  parents_ascend : ∀ c ∈ index.classes, c.parents.Pairwise fun a b => compare a b = .lt
  /-- Every parent can be found. -/
  parents_found : ∀ c ∈ index.classes, ∀ iri ∈ c.parents, ∃ parent, index.class? iri = some parent
  /-- Properties are what is declared as one and has an IRI for a range. -/
  mem_properties_iff : ∀ iri, iri ∈ index.properties.map (·.iri) ↔
    (∃ type ∈ propertyTypes, States store.toList iri rdfType (.iri type)) ∧
      ∃ range, States store.toList iri rdfsRange (.iri range)
  properties_ascend : (index.properties.map (·.iri)).Pairwise fun a b => compare a b = .lt
  property?_of_mem : ∀ p ∈ index.properties, index.property? p.iri = some p
  /-- The least range counts. -/
  range_least : ∀ p ∈ index.properties, States store.toList p.iri rdfsRange (.iri p.range) ∧
    ∀ range, States store.toList p.iri rdfsRange (.iri range) → (compare p.range range).isLE
  mem_domains_iff : ∀ p ∈ index.properties, ∀ iri,
    iri ∈ p.domains ↔ States store.toList p.iri rdfsDomain (.iri iri)
  domains_ascend : ∀ p ∈ index.properties, p.domains.Pairwise fun a b => compare a b = .lt
  /-- Looking a domain up gives the properties that list it, each once and in order. -/
  mem_withDomain_iff : ∀ domain p, p ∈ (PropertyTables.ofStore store).withDomain domain ↔
    p ∈ index.properties ∧ domain ∈ p.domains
  withDomain_ascends : ∀ domain,
    (((PropertyTables.ofStore store).withDomain domain).map (·.iri)).Pairwise
      fun a b => compare a b = .lt
  /-- The look-ups of the index go the same way. -/
  withDomain_eq : ∀ domain,
    (PropertyTables.ofStore store).withDomain domain = index.propertiesWithDomain domain

/-- **The index of a store is exact**, whatever terms its statements put in whatever positions and
graphs. -/
theorem exact_ofStore (store : Store) : (ofStore store).Exact store where
  mem_classes_iff iri := by
    rw [iris_classes_ofStore, mem_classIris]
    simp [isRootType, rootTypes, classTypes, States]
  classes_ascend := by
    rw [iris_classes_ofStore]
    exact pairwise_classIris store
  class?_of_mem _ := (wellFormed_ofStore store).class?_of_mem
  mem_parents_iff c hc iri := by
    rw [(mem_classes_ofStore.mp hc).2, classInfo, mem_parentsOf, iris_classes_ofStore]
    unfold States
    tauto
  parents_ascend c hc := by
    rw [(mem_classes_ofStore.mp hc).2]
    exact (pairwise_iriObjects _ _ _).filter _
  parents_found c hc iri hiri := by
    obtain ⟨parent, hparent, rfl⟩ := (wellFormed_ofStore store).declared c hc iri hiri
    exact ⟨parent, (wellFormed_ofStore store).class?_of_mem hparent⟩
  mem_properties_iff iri := by
    rw [← exists_property_ofStore_iff, List.mem_map]
  properties_ascend := pairwise_iri_properties store
  property?_of_mem _ := property?_of_mem
  range_least _ hp := range_of_propertyInfo? (mem_properties_ofStore.mp hp).2
  mem_domains_iff _ hp _ := mem_domains_ofStore hp
  domains_ascend p hp := by
    rw [domains_of_propertyInfo? (mem_properties_ofStore.mp hp).2]
    exact pairwise_iriObjects _ _ _
  mem_withDomain_iff domain p := by
    rw [PropertyTables.withDomain_ofStore, propertiesWithDomain, List.mem_filter,
      List.contains_iff_mem]
  withDomain_ascends domain := by
    rw [PropertyTables.withDomain_ofStore]
    exact (pairwise_iri_properties store).sublist (List.filter_sublist.map _)
  withDomain_eq := PropertyTables.withDomain_ofStore store

end Index

end OntoWrap
