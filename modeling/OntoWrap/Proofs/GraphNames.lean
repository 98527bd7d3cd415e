import OntoWrap.Proofs.Documents
import OntoWrap.Proofs.ExactIndex

/-!
# Names of graphs

A graph is part of a statement and of its place in the order, so the same triples in other graphs
make a store with other statements in another order, and as many of each triple as there are graphs
that hold it.  The look-ups drop the graphs first and put what is left in order, each once; hence
stores with the same triples answer alike (`Store.Agree.objects_eq` and its neighbours).  Gathering
looks for triples too (`Corpus.agree_store`).  All of the index comes from these look-ups but for
abbreviations, which ask for the graphs about an entity; so nothing else depends on graphs
(`Corpus.sameButAbbreviations_store`).
-/
namespace OntoWrap

open Vocabulary

/-! ## 1. Look-ups -/

/-- Two stores say the same of the resources that have names, be it in other graphs. -/
def Store.Agree (s t : Store) : Prop :=
  ∀ subject predicate object,
    States s.toList subject predicate object ↔ States t.toList subject predicate object

namespace Store.Agree

variable {s t : Store}

theorem objects_eq (h : s.Agree t) : s.objects = t.objects := by
  funext subject predicate
  exact objects_congr (h subject predicate)

theorem subjects_eq (h : s.Agree t) : s.subjects = t.subjects := by
  funext predicate object
  refine Ascending.eq_of_mem_iff (pairwise_subjects ..) (pairwise_subjects ..) fun subject => ?_
  rw [mem_subjects, mem_subjects]
  exact h subject predicate object

/-! ## 2. What the index reads -/

theorem iriObjects_eq (h : s.Agree t) : Index.iriObjects s = Index.iriObjects t := by
  funext subject predicate
  exact Index.iriObjects_congr (h subject predicate)

theorem firstLiteral?_eq (h : s.Agree t) : Index.firstLiteral? s = Index.firstLiteral? t := by
  funext subject predicate
  exact Index.firstLiteral?_congr (h subject predicate)

theorem cardinalityOf_eq (h : s.Agree t) : Index.cardinalityOf s = Index.cardinalityOf t := by
  funext property
  exact Index.cardinalityOf_congr (h property)

theorem instancesOf_eq (h : s.Agree t) : Index.instancesOf s = Index.instancesOf t := by
  funext types
  rw [Index.instancesOf, Index.instancesOf, h.subjects_eq]

theorem classIris_eq (h : s.Agree t) : Index.classIris s = Index.classIris t := by
  rw [Index.classIris, Index.classIris, h.instancesOf_eq]

theorem parentsOf_eq (h : s.Agree t) : Index.parentsOf s = Index.parentsOf t := by
  funext classes iri
  rw [Index.parentsOf, Index.parentsOf, h.iriObjects_eq]

theorem declared?_eq (h : s.Agree t) : Abbreviation.declared? s = Abbreviation.declared? t := by
  funext iri
  rw [Abbreviation.declared?, Abbreviation.declared?, h.objects_eq]

/-- **An abbreviation differs only if the graphs do** that hold statements about the entity. -/
theorem ofEntity_eq (h : s.Agree t) {iri : String}
    (hgraphs : Abbreviation.graphsOf s iri = Abbreviation.graphsOf t iri) :
    Abbreviation.ofEntity s iri = Abbreviation.ofEntity t iri := by
  rw [Abbreviation.ofEntity, Abbreviation.ofEntity, hgraphs, h.declared?_eq]

end Store.Agree

/-! ## 3. Entries without abbreviations -/

/-- A class without its abbreviation. -/
def ClassInfo.withoutAbbreviation (c : ClassInfo) : ClassInfo := { c with abbreviation := "" }

/-- A property without its abbreviation. -/
def PropertyInfo.withoutAbbreviation (p : PropertyInfo) : PropertyInfo :=
  { p with abbreviation := "" }

theorem ClassInfo.withoutAbbreviation_eq_iff {c d : ClassInfo} :
    c.withoutAbbreviation = d.withoutAbbreviation ↔
      c.iri = d.iri ∧ c.label = d.label ∧ c.comment = d.comment ∧ c.parents = d.parents := by
  simp [withoutAbbreviation]

theorem PropertyInfo.withoutAbbreviation_eq_iff {p q : PropertyInfo} :
    p.withoutAbbreviation = q.withoutAbbreviation ↔
      p.iri = q.iri ∧ p.domains = q.domains ∧ p.range = q.range ∧ p.cardinality = q.cardinality ∧
        p.comment = q.comment := by
  simp [withoutAbbreviation]

theorem PropertyTables.byDomain_ofStore (store : Store) : (ofStore store).byDomain =
    Table.addAll [] (((Index.ofStore store).properties.map (·.withoutAbbreviation)).flatMap
      fun p => p.domains.map fun domain => (domain, p.iri)) := by
  rw [ofStore, foldl_enter, List.flatMap_map]
  rfl

/-- **Nothing but abbreviations tells the indexes of two stores apart.** -/
structure Store.SameButAbbreviations (s t : Store) : Prop where
  classes : (Index.ofStore s).classes.map (·.withoutAbbreviation) =
    (Index.ofStore t).classes.map (·.withoutAbbreviation)
  properties : (Index.ofStore s).properties.map (·.withoutAbbreviation) =
    (Index.ofStore t).properties.map (·.withoutAbbreviation)
  byDomain : (PropertyTables.ofStore s).byDomain = (PropertyTables.ofStore t).byDomain
  /-- The user is told the same of the properties. -/
  notes : Index.notes s = Index.notes t
  /-- Nor does an abbreviation differ where the graphs about an entity are the same. -/
  abbreviation : ∀ iri, Abbreviation.graphsOf s iri = Abbreviation.graphsOf t iri →
    Abbreviation.ofEntity s iri = Abbreviation.ofEntity t iri

namespace Store.Agree

variable {s t : Store}

theorem withoutAbbreviation_classInfo (h : s.Agree t) (classes : List String) (iri : String) :
    (Index.classInfo s classes iri).withoutAbbreviation =
      (Index.classInfo t classes iri).withoutAbbreviation := by
  rw [ClassInfo.withoutAbbreviation_eq_iff]
  simp only [Index.classInfo, h.firstLiteral?_eq, h.parentsOf_eq, and_self]

theorem withoutAbbreviation_propertyInfo? (h : s.Agree t) (iri : String) :
    (Index.propertyInfo? s iri).map (·.withoutAbbreviation) =
      (Index.propertyInfo? t iri).map (·.withoutAbbreviation) := by
  rw [Index.propertyInfo?, Index.propertyInfo?, Option.map_map, Option.map_map, h.iriObjects_eq]
  refine congrFun (congrArg Option.map ?_) _
  funext range
  rw [Function.comp_apply, Function.comp_apply, PropertyInfo.withoutAbbreviation_eq_iff]
  simp only [h.cardinalityOf_eq, h.firstLiteral?_eq, and_self]

theorem classes_eq (h : s.Agree t) : (Index.ofStore s).classes.map (·.withoutAbbreviation) =
    (Index.ofStore t).classes.map (·.withoutAbbreviation) := by
  simp only [Index.ofStore, List.map_map, h.classIris_eq]
  exact List.map_congr_left fun iri _ => h.withoutAbbreviation_classInfo _ iri

theorem properties_eq (h : s.Agree t) : (Index.ofStore s).properties.map (·.withoutAbbreviation) =
    (Index.ofStore t).properties.map (·.withoutAbbreviation) := by
  simp only [Index.ofStore, List.map_filterMap, h.instancesOf_eq]
  exact List.filterMap_congr fun iri _ => h.withoutAbbreviation_propertyInfo? iri

theorem sameButAbbreviations (h : s.Agree t) : s.SameButAbbreviations t where
  classes := h.classes_eq
  properties := h.properties_eq
  byDomain := by
    rw [PropertyTables.byDomain_ofStore, PropertyTables.byDomain_ofStore, h.properties_eq]
  notes := by
    rw [Index.notes, Index.notes, h.instancesOf_eq, h.iriObjects_eq]
  abbreviation _ := h.ofEntity_eq

end Store.Agree

/-! ## 4. Gathering -/

namespace Corpus

variable {corpus corpus' : Corpus}

theorem agree_store (h : SameTriples corpus.statements corpus'.statements) :
    corpus.store.Agree corpus'.store := by
  intro subject predicate object
  rw [states_store_iff, states_store_iff, h.states_iff, domainless_eq_of_sameTriples h]

/-- **Graphs matter to abbreviations only**: documents that state the same triples, in whatever
graphs, lead to indexes that are the same but for abbreviations. -/
theorem sameButAbbreviations_store (h : SameTriples corpus.statements corpus'.statements) :
    corpus.store.SameButAbbreviations corpus'.store :=
  (agree_store h).sameButAbbreviations

/-- A class and a property of an ontology that has a name for its graph. -/
def inGraph : Corpus where
  statements := [
    ⟨.iri "x:zoo", .iri naoAbbreviation, .literal "Zoo" none, none⟩,
    ⟨.iri "x:Cat", .iri rdfType, .iri rdfsClass, some (.iri "x:zoo")⟩,
    ⟨.iri "x:tail", .iri rdfType, .iri rdfProperty, some (.iri "x:zoo")⟩,
    ⟨.iri "x:tail", .iri rdfsRange, .iri xsdString, none⟩]

/-- The same class and property outside that graph. -/
def outsideGraph : Corpus where
  statements := [
    ⟨.iri "x:tail", .iri rdfsRange, .iri xsdString, some (.iri "x:zoo")⟩,
    ⟨.iri "x:tail", .iri rdfType, .iri rdfProperty, some (.blank "b")⟩,
    ⟨.iri "x:Cat", .iri rdfType, .iri rdfsClass, some (.iri "x:other")⟩,
    ⟨.iri "x:Cat", .iri rdfType, .iri rdfsClass, none⟩,
    ⟨.iri "x:zoo", .iri naoAbbreviation, .literal "Zoo" none, some (.iri "x:zoo")⟩]

theorem sameButAbbreviations_store_zoo :
    SameTriples inGraph.statements outsideGraph.statements ∧
    inGraph.store.SameButAbbreviations outsideGraph.store ∧
    Abbreviation.ofEntity inGraph.store "x:Cat" = "zoo" ∧
    Abbreviation.ofEntity outsideGraph.store "x:Cat" = "x" := by
  have htriples : SameTriples inGraph.statements outsideGraph.statements := by
    intro triple
    simp only [inGraph, outsideGraph, Statement.triple, List.map_cons, List.map_nil, List.mem_cons,
      List.not_mem_nil]
    tauto
  refine ⟨htriples, sameButAbbreviations_store htriples, ?_, ?_⟩
  · rw [store, Abbreviation.inserted.property]
    simp only [domainless, ascending_eq_foldr]
    decide +kernel
  · rw [store, Abbreviation.inserted.property]
    simp only [domainless, ascending_eq_foldr]
    decide +kernel

end Corpus

end OntoWrap
