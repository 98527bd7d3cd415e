import Mathlib.Data.List.Sort
import OntoWrap.Proofs.Disambiguation
import OntoWrap.Proofs.Documents
import OntoWrap.Proofs.ExactIndex

/-!
# Which properties get accessors on a class

The properties of a class are its own and, if nothing but the root is above it, those of the root
(`mem_effectiveProperties`).  Collecting them through the tables of domains, into a map by their
IRIs, gives the same list as a scan of all properties (`PropertyCollector.propertiesFor_ofStore`).
A plan lists them in the order of their IRIs and each once, whatever names they get.  The main
statement goes all the way back to the documents (`accessors_plan_iff`): it says which of their
statements give a property an accessor on a class.
-/
namespace OntoWrap

open Vocabulary

namespace Index

/-! ## 1. The properties of a class -/

/-- A class has its own properties and, if it hangs directly off the root, those of the root under
either of its names. -/
theorem mem_effectiveProperties {index : Index} {c : ClassInfo} {p : PropertyInfo} :
    p ∈ index.effectiveProperties c ↔ p ∈ index.propertiesWithDomain c.iri ∨
      c.isRootLevel = true ∧ p ∈ index.universalProperties := by
  simp only [effectiveProperties, universalProperties, propertiesWithDomain, List.mem_filter,
    List.mem_flatMap, List.any_eq_true, Bool.or_eq_true, Bool.and_eq_true, isRootType,
    List.contains_iff_mem]
  constructor
  · rintro ⟨hp, hown | ⟨hroot, domain, hdomain, hname⟩⟩
    · exact .inl ⟨hp, hown⟩
    · exact .inr ⟨hroot, domain, hname, hp, hdomain⟩
  · rintro (⟨hp, hown⟩ | ⟨hroot, domain, hname, hp, hdomain⟩)
    · exact ⟨hp, .inl hown⟩
    · exact ⟨hp, .inr ⟨hroot, domain, hdomain, hname⟩⟩

/-- The properties of a class come in the order of their IRIs. -/
theorem pairwise_iri_effectiveProperties (store : Store) (c : ClassInfo) :
    (((ofStore store).effectiveProperties c).map (·.iri)).Pairwise
      fun a b => compare a b = .lt :=
  (pairwise_iri_properties store).sublist (List.filter_sublist.map _)

/-- Which statements of a store make a property one of a class. -/
theorem exists_effectiveProperty_iff {store : Store} {c : ClassInfo} {iri : String} :
    (∃ p ∈ (ofStore store).effectiveProperties c, p.iri = iri) ↔
      (∃ p ∈ (ofStore store).properties, p.iri = iri) ∧
        (States store.toList iri rdfsDomain (.iri c.iri) ∨
          c.isRootLevel = true ∧
            ∃ root ∈ rootTypes, States store.toList iri rdfsDomain (.iri root)) := by
  have hdomain : ∀ p ∈ (ofStore store).properties, ∀ domain,
      p ∈ (ofStore store).propertiesWithDomain domain ↔
        States store.toList p.iri rdfsDomain (.iri domain) := by
    intro p hp domain
    rw [propertiesWithDomain, List.mem_filter, List.contains_iff_mem, mem_domains_ofStore hp]
    exact and_iff_right hp
  constructor
  · rintro ⟨p, hp, rfl⟩
    have hmem : p ∈ (ofStore store).properties := (List.mem_filter.mp hp).1
    refine ⟨⟨p, hmem, rfl⟩, ?_⟩
    rcases mem_effectiveProperties.mp hp with hown | ⟨hroot, huniversal⟩
    · exact .inl ((hdomain p hmem _).mp hown)
    · obtain ⟨root, hname, hroots⟩ := List.mem_flatMap.mp huniversal
      exact .inr ⟨hroot, root, hname, (hdomain p hmem _).mp hroots⟩
  · rintro ⟨⟨p, hmem, rfl⟩, hown | ⟨hroot, root, hname, hstates⟩⟩
    · exact ⟨p, mem_effectiveProperties.mpr (.inl ((hdomain p hmem _).mpr hown)), rfl⟩
    · have huniversal : p ∈ (ofStore store).universalProperties :=
        List.mem_flatMap.mpr ⟨root, hname, (hdomain p hmem _).mpr hstates⟩
      exact ⟨p, mem_effectiveProperties.mpr (.inr ⟨hroot, huniversal⟩), rfl⟩

end Index

/-! ## 2. Collected properties -/

namespace PropertyMap

variable {map : PropertyMap} {p q : PropertyInfo}

/-- The IRIs of a map ascend. -/
def Ascends (map : PropertyMap) : Prop := map.Pairwise fun p q => compare p.iri q.iri = .lt

theorem mem_of_mem_put (h : q ∈ map.put p) : q = p ∨ q ∈ map := by
  induction map with
  | nil => exact .inl (List.mem_singleton.mp h)
  | cons first rest ih =>
    rw [put] at h
    split at h
    · exact List.mem_cons.mp h
    · exact (List.mem_cons.mp h).imp id (List.mem_cons_of_mem first)
    · rcases List.mem_cons.mp h with rfl | hrest
      · exact .inr List.mem_cons_self
      · exact (ih hrest).imp id (List.mem_cons_of_mem first)

theorem Ascends.put (h : map.Ascends) : (map.put p).Ascends := by
  induction map with
  | nil => exact List.pairwise_singleton _ _
  | cons first rest ih =>
    obtain ⟨hfirst, hrest⟩ := List.pairwise_cons.mp h
    rw [PropertyMap.put]
    split
    · rename_i hlt
      refine List.pairwise_cons.mpr ⟨fun q hq => ?_, h⟩
      rcases List.mem_cons.mp hq with rfl | hq
      · exact hlt
      · exact Std.TransCmp.lt_trans hlt (hfirst q hq)
    · rename_i heq
      have hiri : p.iri = first.iri := Std.LawfulEqOrd.eq_of_compare heq
      exact List.pairwise_cons.mpr ⟨fun q hq => hiri ▸ hfirst q hq, hrest⟩
    · rename_i hgt
      refine List.pairwise_cons.mpr ⟨fun q hq => ?_, ih hrest⟩
      rcases mem_of_mem_put hq with rfl | hq
      · exact Std.OrientedCmp.lt_of_gt hgt
      · exact hfirst q hq

theorem Ascends.putAll (properties : List PropertyInfo) (h : map.Ascends) :
    (map.putAll properties).Ascends := by
  induction properties generalizing map with
  | nil => exact h
  | cons p rest ih => exact ih h.put

/-- A property joins those of a map if no other one in it has the IRI. -/
theorem mem_put (h : ∀ r ∈ map, p.iri = r.iri → p = r) : q ∈ map.put p ↔ q = p ∨ q ∈ map := by
  refine ⟨mem_of_mem_put, ?_⟩
  induction map with
  | nil => simp [put]
  | cons first rest ih =>
    obtain ⟨hfirst, hrest⟩ := List.forall_mem_cons.mp h
    rw [put]
    split
    · exact List.mem_cons.mpr
    · rename_i heq
      rw [hfirst (Std.LawfulEqOrd.eq_of_compare heq), List.mem_cons, or_self_left]
      exact id
    · rw [List.mem_cons, List.mem_cons, or_left_comm]
      exact Or.imp_right (ih hrest)

/-- **A map holds what was put into it**, as long as the IRIs tell the properties apart. -/
theorem mem_putAll {known : List PropertyInfo}
    (hknown : ∀ p ∈ known, ∀ r ∈ known, p.iri = r.iri → p = r) {properties : List PropertyInfo}
    (hmap : ∀ p ∈ map, p ∈ known) (hproperties : ∀ p ∈ properties, p ∈ known) :
    q ∈ map.putAll properties ↔ q ∈ map ∨ q ∈ properties := by
  induction properties generalizing map with
  | nil => simp [putAll]
  | cons p rest ih =>
    obtain ⟨hp, hrest⟩ := List.forall_mem_cons.mp hproperties
    have hput : ∀ q, q ∈ map.put p ↔ q = p ∨ q ∈ map := fun q =>
      mem_put fun r hr => hknown p hp r (hmap r hr)
    have hmap' : ∀ q ∈ map.put p, q ∈ known := by
      intro q hq
      rcases (hput q).mp hq with rfl | hq
      · exact hp
      · exact hmap q hq
    have hstep : map.putAll (p :: rest) = (map.put p).putAll rest := rfl
    rw [hstep, ih hmap' hrest, hput, List.mem_cons, or_assoc, or_left_comm]

end PropertyMap

namespace PropertyCollector

variable {store : Store}

/-- IRIs tell properties apart. -/
theorem eq_of_iri_eq {p q : PropertyInfo} (hp : p ∈ (Index.ofStore store).properties)
    (hq : q ∈ (Index.ofStore store).properties) (hiri : p.iri = q.iri) : p = q := by
  have hfound := Index.property?_of_mem hp
  rw [hiri, Index.property?_of_mem hq] at hfound
  exact (Option.some.inj hfound).symm

theorem universal_ofStore (store : Store) :
    (ofStore store).universal = (Index.ofStore store).universalProperties :=
  List.flatMap_congr fun domain _ => PropertyTables.withDomain_ofStore store domain

theorem mem_propertiesFor {p : PropertyInfo} {c : ClassInfo} :
    p ∈ (ofStore store).propertiesFor c ↔ p ∈ (Index.ofStore store).effectiveProperties c := by
  have hlisted : ∀ {domain}, ∀ q ∈ (Index.ofStore store).propertiesWithDomain domain,
      q ∈ (Index.ofStore store).properties := fun q hq => (List.mem_filter.mp hq).1
  have huniversal : ∀ q ∈ (Index.ofStore store).universalProperties,
      q ∈ (Index.ofStore store).properties := by
    intro q hq
    obtain ⟨domain, -, hdomain⟩ := List.mem_flatMap.mp hq
    exact hlisted q hdomain
  have hown : ∀ q, q ∈ PropertyMap.putAll [] ((PropertyTables.ofStore store).withDomain c.iri) ↔
      q ∈ (Index.ofStore store).propertiesWithDomain c.iri := by
    intro q
    rw [PropertyTables.withDomain_ofStore,
      PropertyMap.mem_putAll (fun p hp r hr => eq_of_iri_eq hp hr) (by simp) hlisted]
    simp
  rw [Index.mem_effectiveProperties, propertiesFor, universal_ofStore]
  cases c.isRootLevel with
  | true =>
    have hbelow : ∀ q ∈ PropertyMap.putAll [] ((ofStore store).tables.withDomain c.iri),
        q ∈ (Index.ofStore store).properties := fun q hq => hlisted q ((hown q).mp hq)
    rw [if_pos rfl, PropertyMap.mem_putAll (fun p hp r hr => eq_of_iri_eq hp hr) hbelow huniversal]
    exact or_congr (hown p) (by simp)
  | false =>
    rw [if_neg (by decide)]
    exact (hown p).trans (by simp)

theorem ascends_propertiesFor (collector : PropertyCollector) (c : ClassInfo) :
    (collector.propertiesFor c).Ascends := by
  have hown : (PropertyMap.putAll [] (collector.tables.withDomain c.iri)).Ascends :=
    PropertyMap.Ascends.putAll _ .nil
  unfold propertiesFor
  split
  · exact hown.putAll _
  · exact hown

/-- **The properties collected for a class are those that the index gives it**, in the same
order. -/
theorem propertiesFor_ofStore (store : Store) (c : ClassInfo) :
    (ofStore store).propertiesFor c = (Index.ofStore store).effectiveProperties c := by
  have hasymm : Std.Asymm fun p q : PropertyInfo => compare p.iri q.iri = .lt :=
    ⟨fun p q hlt hgt => by
      have hself := Std.TransCmp.lt_trans hlt hgt
      rw [Std.ReflOrd.compare_self] at hself
      cases hself⟩
  have hscanned := Index.pairwise_iri_effectiveProperties store c
  rw [List.pairwise_map] at hscanned
  exact (ascends_propertiesFor _ c).eq_of_mem_iff hscanned fun p => mem_propertiesFor

end PropertyCollector

/-! ## 3. The accessors of a plan -/

namespace Index

/-- A plan has one accessor for each property of the class, in the order of the properties. -/
theorem properties_accessors_plan {index : Index} {declare : String → String} {c : ClassInfo}
    {unit : ClassUnit} (h : index.plan declare c = .ok unit) :
    unit.accessors.map (·.property) = (index.effectiveProperties c).map (·.iri) := by
  obtain ⟨-, -, named, hnamed, rfl⟩ := plan_eq_ok_iff.mp h
  obtain ⟨rfl, -, -⟩ := Naming.disambiguate_eq_ok_iff.mp hnamed
  conv_rhs => rw [← Naming.map_property_secondRound declare (index.effectiveProperties c)]
  rw [List.map_map, List.map_map]
  rfl

end Index

/-! ## 4. From the documents to the accessors -/

/-- Some class other than itself and the root is declared to be above a class. -/
def HasDeclaredParent (statements : List Statement) (iri : String) : Prop :=
  ∃ parent, States statements iri rdfsSubClassOf (.iri parent) ∧
    DeclaresClass statements parent ∧ parent ≠ iri

/-- A property that some statement gives to the root, or that no statement gives to anything. -/
def BelongsToRoot (statements : List Statement) (property : String) : Prop :=
  States statements property rdfsDomain (.iri rdfsResource) ∨
    States statements property rdfsDomain (.iri owlThing) ∨ LacksDomain statements property

namespace Corpus

variable {corpus : Corpus}

/-- A class hangs directly off the root if the documents declare no parent of it. -/
theorem isRootLevel_iff {c : ClassInfo} (hc : c ∈ (Index.ofStore corpus.store).classes) :
    c.isRootLevel = true ↔ ¬ HasDeclaredParent corpus.statements c.iri := by
  rw [Index.isRootLevel_of_mem_classes hc, HasDeclaredParent, not_exists]
  refine forall_congr' fun parent => ?_
  rw [states_store_of_ne (by decide), mem_classIris_store]
  tauto

/-- What the documents declare as a property with a range is a property of the index. -/
theorem exists_property_iff {iri : String} :
    (∃ p ∈ (Index.ofStore corpus.store).properties, p.iri = iri) ↔
      DeclaresProperty corpus.statements iri ∧
        ∃ range, States corpus.statements iri rdfsRange (.iri range) := by
  rw [Index.exists_property_ofStore_iff]
  refine and_congr ?_ ?_
  · refine exists_congr fun type => and_congr_right fun _ => ?_
    exact states_store_of_ne (by decide)
  · exact exists_congr fun range => states_store_of_ne (by decide)

/-- A declared property has the root for a domain, under one of its names, if the documents give it
to the root or to nothing. -/
theorem exists_rootDomain_iff {property : String}
    (hdeclared : DeclaresProperty corpus.statements property) :
    (∃ root ∈ rootTypes, States corpus.store.toList property rdfsDomain (.iri root)) ↔
      BelongsToRoot corpus.statements property := by
  simp only [rootTypes, List.mem_cons, List.not_mem_nil, or_false, exists_eq_or_imp,
    exists_eq_left, states_domain_store, Term.iri.injEq, BelongsToRoot]
  have hnames : owlThing ≠ rdfsResource := by decide
  tauto

/-- A class of the index has a property of its own only if the documents say so: the domain that is
added to some properties is no class. -/
theorem states_ownDomain_iff {c : ClassInfo} (hc : c ∈ (Index.ofStore corpus.store).classes)
    {property : String} :
    States corpus.store.toList property rdfsDomain (.iri c.iri) ↔
      States corpus.statements property rdfsDomain (.iri c.iri) := by
  have hroot : c.iri ≠ rdfsResource := by
    intro heq
    have hclass := Index.isRootType_of_mem_classes hc
    rw [heq] at hclass
    exact absurd hclass (by decide)
  rw [states_domain_store, Term.iri.injEq]
  exact or_iff_left fun h => hroot h.2

end Corpus

/-- **The accessors of a class, end to end.**  A plan lists properties in strictly ascending order
of their IRIs.  They are those that the documents declare and give a range to, and give to the
class; or, if the documents declare no parent of the class, to the root or to nothing at all. -/
theorem accessors_plan_iff {documents : List (Except LoadFault Document.Contents)} {corpus : Corpus}
    (hread : Corpus.ofDocuments documents = .ok corpus) {c : ClassInfo}
    (hc : c ∈ (Index.ofStore corpus.store).classes) {declare : String → String} {unit : ClassUnit}
    (hplan : (Index.ofStore corpus.store).plan declare c = .ok unit) :
    (unit.accessors.map (·.property)).Pairwise (fun a b => compare a b = .lt) ∧
      ∀ property, property ∈ unit.accessors.map (·.property) ↔
        DeclaresProperty (statedBy documents) property ∧
        (∃ range, States (statedBy documents) property rdfsRange (.iri range)) ∧
        (States (statedBy documents) property rdfsDomain (.iri c.iri) ∨
          ¬ HasDeclaredParent (statedBy documents) c.iri ∧
            BelongsToRoot (statedBy documents) property) := by
  rw [← Corpus.statements_ofDocuments hread, Index.properties_accessors_plan hplan]
  refine ⟨Index.pairwise_iri_effectiveProperties _ c, fun property => ?_⟩
  rw [List.mem_map, Index.exists_effectiveProperty_iff, Corpus.exists_property_iff,
    Corpus.states_ownDomain_iff hc, Corpus.isRootLevel_iff hc]
  constructor
  · rintro ⟨⟨hdeclared, hrange⟩, hown | ⟨hparentless, hroot⟩⟩
    · exact ⟨hdeclared, hrange, .inl hown⟩
    · exact ⟨hdeclared, hrange,
        .inr ⟨hparentless, (Corpus.exists_rootDomain_iff hdeclared).mp hroot⟩⟩
  · rintro ⟨hdeclared, hrange, hown | ⟨hparentless, hroot⟩⟩
    · exact ⟨⟨hdeclared, hrange⟩, .inl hown⟩
    · exact ⟨⟨hdeclared, hrange⟩,
        .inr ⟨hparentless, (Corpus.exists_rootDomain_iff hdeclared).mpr hroot⟩⟩

/-- The declaration of a property of texts. -/
def textPropertyDeclaration (iri : String) : List Statement := [
  ⟨.iri iri, .iri rdfType, .iri rdfProperty, none⟩,
  ⟨.iri iri, .iri rdfsRange, .iri xsdString, none⟩]

/-- The domain that a statement gives to a property. -/
def domainOf (property : String) (object : Term) : Statement :=
  ⟨.iri property, .iri rdfsDomain, object, none⟩

/-- A document about a class, whose only parents are itself and an IRI that is no class. -/
def classDocument : Document.Contents where
  statements := [
    ⟨.iri "x:a", .iri rdfType, .iri rdfsClass, none⟩,
    ⟨.iri "x:a", .iri rdfsSubClassOf, .iri "x:a", none⟩,
    ⟨.iri "x:a", .iri rdfsSubClassOf, .iri "x:b", none⟩]

/-- A document about four properties: `x:p` belongs to the class, `x:q` to the root under both of
its names, `x:r` to nothing, and `x:s` to a node without a name. -/
def propertyDocument : Document.Contents where
  statements := ["x:p", "x:q", "x:r", "x:s"].flatMap textPropertyDeclaration ++ [
    domainOf "x:p" (.iri "x:a"), domainOf "x:q" (.iri owlThing), domainOf "x:q" (.iri rdfsResource),
    domainOf "x:s" (.blank "b")]

/-- The corpus of the two documents. -/
def classCorpus : Corpus := ({} : Corpus).add propertyDocument |>.add classDocument

/-- The class of the two documents, as it is indexed. -/
def documentedClass : ClassInfo := ⟨"x:a", "a", none, "x", []⟩

/-- A property of the two documents, as it is indexed. -/
def documentedProperty (iri : String) (domains : List String) : PropertyInfo :=
  ⟨iri, domains, xsdString, .unbounded, none, "x"⟩

theorem ofStore_classCorpus : Index.ofStore classCorpus.store =
    { classes := [documentedClass]
      properties := [documentedProperty "x:p" ["x:a"],
        documentedProperty "x:q" [rdfsResource, owlThing],
        documentedProperty "x:r" [rdfsResource], documentedProperty "x:s" []] } := by
  rw [Corpus.store, Index.inserted.property]
  simp only [Corpus.domainless, ascending_eq_foldr]
  decide +kernel

theorem accessors_plan_documentedClass :
    Corpus.ofDocuments [.ok propertyDocument, .ok classDocument] = .ok classCorpus ∧
      documentedClass ∈ (Index.ofStore classCorpus.store).classes ∧
      ∃ unit, (Index.ofStore classCorpus.store).plan id documentedClass = .ok unit ∧
        ∀ property, property ∈ unit.accessors.map (·.property) ↔
          DeclaresProperty (statedBy [.ok propertyDocument, .ok classDocument]) property ∧
          (∃ range, States (statedBy [.ok propertyDocument, .ok classDocument]) property rdfsRange
            (.iri range)) ∧
          (States (statedBy [.ok propertyDocument, .ok classDocument]) property rdfsDomain
              (.iri documentedClass.iri) ∨
            ¬ HasDeclaredParent (statedBy [.ok propertyDocument, .ok classDocument])
                documentedClass.iri ∧
              BelongsToRoot (statedBy [.ok propertyDocument, .ok classDocument]) property) := by
  have hread : Corpus.ofDocuments [.ok propertyDocument, .ok classDocument] = .ok classCorpus := rfl
  have hclass : documentedClass ∈ (Index.ofStore classCorpus.store).classes := by
    rw [ofStore_classCorpus]
    exact List.mem_cons_self
  have hplan : ∃ unit, (Index.ofStore classCorpus.store).plan id documentedClass = .ok unit := by
    rw [ofStore_classCorpus]
    refine exists_plan_iff.mpr ⟨⟨[], ?_⟩, _, Naming.disambiguate_eq_ok_iff.mpr ⟨rfl, ?_, ?_⟩⟩
    · simp [Index.ancestors, documentedClass, Index.walk]
    · decide +kernel
    · decide +kernel
  obtain ⟨unit, hplan⟩ := hplan
  exact ⟨hread, hclass, unit, hplan, (accessors_plan_iff hread hclass hplan).2⟩

/-- The property of a nameless node gets no accessors, and the one that the root has twice gets them
once. -/
example : ((Index.ofStore classCorpus.store).effectiveProperties documentedClass).map (·.iri)
    = ["x:p", "x:q", "x:r"] := by
  rw [ofStore_classCorpus]
  decide +kernel

end OntoWrap
