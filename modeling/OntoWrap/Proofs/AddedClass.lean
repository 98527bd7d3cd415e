import OntoWrap.Proofs.Abbreviations
import OntoWrap.Proofs.Ancestry

/-!
# Adding a class

A new class is declared in an ontology: of a name that no statement mentions so far, statements now
say that it is a class, what is above it, and how it is called and described.  Then every other
class keeps its plan, or the fault for which it has none, and so its file
(`NewClass.plan_together`).

The argument has two halves.  A plan reads no more of an index than its class, the classes above it
and the properties, so it is the same in every index that has these (`Index.Extends`).  And the
index with the new class has them, because each of its entries comes from statements about its own
IRI, and an entry that was there before refers to no name that is new.  A class that had the new
name for a parent before it was one would be given a parent by the declaration; that the name was
mentioned nowhere is what rules this out.
-/
namespace OntoWrap

open Vocabulary

/-! ## 1. What is said of one subject -/

/-- Two stores hold the same statements about a subject, graphs included. -/
def Store.SameAbout (s t : Store) (iri : String) : Prop :=
  ∀ st : Statement, st.subject = .iri iri → (st ∈ s.toList ↔ st ∈ t.toList)

namespace Store.SameAbout

variable {s t : Store} {iri : String}

theorem states_iff (h : s.SameAbout t iri) (predicate : String) (object : Term) :
    States s.toList iri predicate object ↔ States t.toList iri predicate object :=
  exists_congr fun _ => h _ rfl

theorem graphsOf_eq (h : s.SameAbout t iri) :
    Abbreviation.graphsOf s iri = Abbreviation.graphsOf t iri := by
  refine Ascending.eq_of_mem_iff (pairwise_ascending _) (pairwise_ascending _) fun graph => ?_
  rw [Abbreviation.mem_graphsOf, Abbreviation.mem_graphsOf]
  refine exists_congr fun st => ?_
  constructor
  · rintro ⟨hst, hsubject, hgraph⟩
    exact ⟨(h st hsubject).mp hst, hsubject, hgraph⟩
  · rintro ⟨hst, hsubject, hgraph⟩
    exact ⟨(h st hsubject).mpr hst, hsubject, hgraph⟩

end Store.SameAbout

/-! ## 2. What a plan reads of an index -/

namespace Index

/-- An index has all classes of another as they are there, and its properties and no others. -/
structure Extends (larger smaller : Index) : Prop where
  class?_of_mem : ∀ c ∈ smaller.classes, larger.class? c.iri = some c
  properties : larger.properties = smaller.properties

namespace Extends

variable {larger smaller : Index} {c : ClassInfo}

theorem class?_eq (h : larger.Extends smaller) {iri : String} (hc : smaller.class? iri = some c) :
    larger.class? iri = some c := by
  have hfound := h.class?_of_mem c (mem_of_class? hc)
  rwa [iri_of_class? hc] at hfound

/-- **A walk in the smaller index goes the same way in the larger one.**  The invariant of the walk
is what shows that it never leaves the smaller index: a pending parent is always found there. -/
theorem walk_eq (h : larger.Extends smaller) (hw : smaller.WellFormed) {start : ClassInfo}
    (stack : List Frame) (visited : List String) (found : List ClassInfo)
    (hwalk : smaller.WalkInvariant start stack visited found) :
    larger.walk start.iri stack visited found = smaller.walk start.iri stack visited found := by
  fun_induction smaller.walk start.iri stack visited found with
  | case1 visited found => rw [walk]
  | case2 visited found c below ih =>
    rw [walk]
    cases below with
    | nil => rw [walk, walk]
    | cons frame below => exact ih hwalk.leave
  | case3 visited found c p pending below hpath => rw [walk, if_pos hpath]
  | case4 visited found c p pending below hpath hseen ih =>
    rw [walk, if_neg hpath, dif_pos hseen]
    exact ih (hwalk.skip (by simpa using hpath) (List.contains_iff_mem.mp hseen))
  | case5 visited found c p pending below hpath hseen hnone =>
    exact absurd hnone (hwalk.class?_isSome hw)
  | case6 visited found c p pending below hpath hseen parent hparent ih =>
    rw [walk, if_neg hpath, dif_neg hseen]
    split
    · rename_i hnone
      rw [h.class?_eq hparent] at hnone
      cases hnone
    · rename_i entered hentered
      obtain rfl : parent = entered := Option.some.inj ((h.class?_eq hparent).symm.trans hentered)
      exact ih (hwalk.enter (by simpa using hpath) (by simpa using hseen) hparent)

theorem ancestors_eq (h : larger.Extends smaller) (hw : smaller.WellFormed)
    (hc : c ∈ smaller.classes) : larger.ancestors c = smaller.ancestors c :=
  h.walk_eq hw _ _ _ (.initial hc)

theorem directParents_eq (h : larger.Extends smaller) (hw : smaller.WellFormed)
    (hc : c ∈ smaller.classes) : larger.directParents c = smaller.directParents c := by
  refine List.filterMap_congr fun p hp => ?_
  obtain ⟨parent, hparent, rfl⟩ := hw.declared c hc p hp
  rw [hw.class?_of_mem hparent, h.class?_of_mem parent hparent]

/-- **A class of the smaller index has the plan that it has there**, or the fault. -/
theorem plan_eq (h : larger.Extends smaller) (hw : smaller.WellFormed) (hc : c ∈ smaller.classes)
    (declare : String → String) : larger.plan declare c = smaller.plan declare c := by
  have hproperties : larger.effectiveProperties c = smaller.effectiveProperties c := by
    rw [effectiveProperties, effectiveProperties, h.properties]
  rw [plan, plan, h.ancestors_eq hw hc, hproperties, h.directParents_eq hw hc]

theorem emit_eq (h : larger.Extends smaller) (hw : smaller.WellFormed) (hc : c ∈ smaller.classes)
    (renderer : Renderer) : renderer.emit larger c = renderer.emit smaller c := by
  rw [Renderer.emit, Renderer.emit, h.plan_eq hw hc]

end Extends

end Index

/-! ## 3. A new class -/

/-- An IRI stands in some position of a statement, or is its graph. -/
def Statement.Mentions (st : Statement) (iri : String) : Prop :=
  st.subject = .iri iri ∨ st.predicate = .iri iri ∨ st.object = .iri iri ∨
    st.graph = some (.iri iri)

instance (st : Statement) (iri : String) : Decidable (st.Mentions iri) :=
  inferInstanceAs (Decidable (_ ∨ _ ∨ _ ∨ _))

/-- What is said to declare a class, in whatever graph: that it is one, what is above it, and how it
is called and described. -/
inductive Declares (iri : String) : Statement → Prop
  | type {type : String} (graph : Option Term) : type ∈ classTypes →
      Declares iri ⟨.iri iri, .iri rdfType, .iri type, graph⟩
  | about {predicate : String} (object : Term) (graph : Option Term) :
      predicate ∈ [rdfsSubClassOf, rdfsLabel, rdfsComment] →
      Declares iri ⟨.iri iri, .iri predicate, object, graph⟩

/-- No type makes both classes and properties. -/
theorem not_mem_propertyTypes {type : String} (h : type ∈ classTypes) : type ∉ propertyTypes := by
  revert type
  decide

/-- Some statements declare a class of a name that a store does not mention. -/
structure NewClass (store : Store) (iri : String) (added : List Statement) : Prop where
  unmentioned : ∀ st ∈ store.toList, ¬ st.Mentions iri
  declares : ∀ st ∈ added, Declares iri st

/-- A store together with some more statements. -/
def Store.together (store : Store) (added : List Statement) : Store :=
  .ofList (store.toList ++ added)

theorem Store.mem_together {store : Store} {added : List Statement} {st : Statement} :
    st ∈ (store.together added).toList ↔ st ∈ store.toList ∨ st ∈ added := by
  rw [together, mem_ofList, List.mem_append]

namespace Declares

variable {iri : String} {st : Statement}

theorem subject_eq (h : Declares iri st) : st.subject = .iri iri := by
  cases h <;> rfl

/-- No declaration of a class gives an abbreviation. -/
theorem predicate_ne_naoAbbreviation (h : Declares iri st) :
    st.predicate ≠ .iri naoAbbreviation := by
  cases h with
  | type graph _ => exact mt Term.iri.inj (by decide)
  | about object graph hpredicate =>
    intro heq
    rw [Term.iri.inj heq] at hpredicate
    exact absurd hpredicate (by decide)

/-- What a declaration of a class types is a class. -/
theorem object_of_type (h : Declares iri st) (htype : st.predicate = .iri rdfType) :
    ∃ type ∈ classTypes, st.object = .iri type := by
  cases h with
  | type graph hclass => exact ⟨_, hclass, rfl⟩
  | about object graph hpredicate =>
    rw [Term.iri.inj htype] at hpredicate
    exact absurd hpredicate (by decide)

end Declares

namespace NewClass

variable {store : Store} {iri : String} {added : List Statement}

/-- What does not declare the class is stated as before. -/
theorem states_iff (h : NewClass store iri added) {subject predicate : String} {object : Term}
    (hother : ∀ graph, ¬ Declares iri ⟨.iri subject, .iri predicate, object, graph⟩) :
    States (store.together added).toList subject predicate object ↔
      States store.toList subject predicate object := by
  refine exists_congr fun graph => Store.mem_together.trans (or_iff_left fun hst => ?_)
  exact hother graph (h.declares _ hst)

/-- **Of any other subject the same is said.** -/
theorem sameAbout (h : NewClass store iri added) {subject : String} (hne : subject ≠ iri) :
    (store.together added).SameAbout store subject := by
  intro st hsubject
  refine Store.mem_together.trans (or_iff_left fun hst => ?_)
  rw [(h.declares st hst).subject_eq] at hsubject
  exact hne (Term.iri.inj hsubject).symm

theorem subject_ne (h : NewClass store iri added) {subject predicate : String} {object : Term}
    (hstates : States store.toList subject predicate object) : subject ≠ iri := by
  rintro rfl
  obtain ⟨graph, hst⟩ := hstates
  exact h.unmentioned _ hst (.inl rfl)

theorem object_ne (h : NewClass store iri added) {subject predicate object : String}
    (hstates : States store.toList subject predicate (.iri object)) : object ≠ iri := by
  rintro rfl
  obtain ⟨graph, hst⟩ := hstates
  exact h.unmentioned _ hst (.inr (.inr (.inl rfl)))

/-! ## 4. Entries of the index -/

/-- A declaration gives no IRI an abbreviation. -/
theorem declared?_eq (h : NewClass store iri added) :
    Abbreviation.declared? (store.together added) = Abbreviation.declared? store := by
  funext name
  have hobjects : (store.together added).objects name naoAbbreviation =
      store.objects name naoAbbreviation :=
    Store.objects_congr fun object => h.states_iff fun graph hdeclares =>
      hdeclares.predicate_ne_naoAbbreviation rfl
  rw [Abbreviation.declared?, Abbreviation.declared?, hobjects]

theorem ofEntity_eq (h : NewClass store iri added) {entity : String} (hne : entity ≠ iri) :
    Abbreviation.ofEntity (store.together added) entity = Abbreviation.ofEntity store entity := by
  rw [Abbreviation.ofEntity, Abbreviation.ofEntity, (h.sameAbout hne).graphsOf_eq, h.declared?_eq]

theorem mem_classIris_iff (h : NewClass store iri added) {name : String} (hne : name ≠ iri) :
    name ∈ Index.classIris (store.together added) ↔ name ∈ Index.classIris store := by
  rw [Index.mem_classIris, Index.mem_classIris]
  exact and_congr_right fun _ => exists_congr fun type =>
    and_congr_right fun _ => (h.sameAbout hne).states_iff rdfType (.iri type)

theorem ne_of_mem_classIris (h : NewClass store iri added) {name : String}
    (hname : name ∈ Index.classIris store) : name ≠ iri := by
  obtain ⟨-, type, -, hstates⟩ := Index.mem_classIris.mp hname
  exact h.subject_ne hstates

/-- **No other class gets a parent**: those that it lists are not new. -/
theorem parentsOf_eq (h : NewClass store iri added) {name : String} (hne : name ≠ iri) :
    Index.parentsOf (store.together added) (Index.classIris (store.together added)) name =
      Index.parentsOf store (Index.classIris store) name := by
  rw [Index.parentsOf, Index.parentsOf, Index.iriObjects_congr ((h.sameAbout hne).states_iff _)]
  refine List.filter_congr fun parent hparent => ?_
  have hnew : parent ≠ iri := h.object_ne (Index.mem_iriObjects.mp hparent)
  have hdeclared : (Index.classIris (store.together added)).contains parent =
      (Index.classIris store).contains parent := by
    rw [Bool.eq_iff_iff, List.contains_iff_mem, List.contains_iff_mem, h.mem_classIris_iff hnew]
  rw [hdeclared]

theorem classInfo_eq (h : NewClass store iri added) {name : String} (hne : name ≠ iri) :
    Index.classInfo (store.together added) (Index.classIris (store.together added)) name =
      Index.classInfo store (Index.classIris store) name := by
  have hsame := (h.sameAbout hne).states_iff
  simp only [Index.classInfo, Index.firstLiteral?_congr (hsame _), h.ofEntity_eq hne,
    h.parentsOf_eq hne]

theorem propertyInfo?_eq (h : NewClass store iri added) {name : String} (hne : name ≠ iri) :
    Index.propertyInfo? (store.together added) name = Index.propertyInfo? store name := by
  have hsame := (h.sameAbout hne).states_iff
  simp only [Index.propertyInfo?, Index.iriObjects_congr (hsame _), Index.cardinalityOf_congr hsame,
    Index.firstLiteral?_congr (hsame _), h.ofEntity_eq hne]

/-- No property is declared with a class. -/
theorem instancesOf_propertyTypes_eq (h : NewClass store iri added) :
    Index.instancesOf (store.together added) propertyTypes
      = Index.instancesOf store propertyTypes := by
  refine Ascending.eq_of_mem_iff (pairwise_ascending _) (pairwise_ascending _) fun name => ?_
  rw [Index.mem_instancesOf, Index.mem_instancesOf]
  refine exists_congr fun type => and_congr_right fun hproperty =>
    h.states_iff fun graph hdeclares => ?_
  obtain ⟨type', hclass, heq⟩ := hdeclares.object_of_type rfl
  obtain rfl : type = type' := Term.iri.inj heq
  exact not_mem_propertyTypes hclass hproperty

theorem properties_eq (h : NewClass store iri added) :
    (Index.ofStore (store.together added)).properties = (Index.ofStore store).properties := by
  rw [Index.ofStore, Index.ofStore, h.instancesOf_propertyTypes_eq]
  refine List.filterMap_congr fun name hname => h.propertyInfo?_eq ?_
  obtain ⟨type, -, hstates⟩ := Index.mem_instancesOf.mp hname
  exact h.subject_ne hstates

/-- **The index with the new class extends the one without it.** -/
theorem extends_ofStore (h : NewClass store iri added) :
    (Index.ofStore (store.together added)).Extends (Index.ofStore store) where
  class?_of_mem c hc := by
    obtain ⟨hdeclared, hinfo⟩ := Index.mem_classes_ofStore.mp hc
    have hne := h.ne_of_mem_classIris hdeclared
    refine (Index.wellFormed_ofStore _).class?_of_mem (Index.mem_classes_ofStore.mpr ⟨?_, ?_⟩)
    · exact (h.mem_classIris_iff hne).mpr hdeclared
    · rw [h.classInfo_eq hne, ← hinfo]
  properties := h.properties_eq

/-! ## 5. Plans and files -/

/-- **Adding a class changes no other class.**  A class that was there stays in the index as it is,
and it keeps its plan, or the fault for which it has none, and its file in every target.  Whenever
all classes are rendered with the new one, that file is among the outputs. -/
theorem plan_together (h : NewClass store iri added) {c : ClassInfo}
    (hc : c ∈ (Index.ofStore store).classes) :
    (Index.ofStore (store.together added)).class? c.iri = some c ∧
    (∀ declare, (Index.ofStore (store.together added)).plan declare c =
      (Index.ofStore store).plan declare c) ∧
    ∀ renderer : Renderer,
      renderer.emit (Index.ofStore (store.together added)) c
        = renderer.emit (Index.ofStore store) c ∧
      ∀ rendering, renderAll (Index.ofStore (store.together added)) renderer = .ok rendering →
        ∃ out ∈ rendering.outputs, renderer.emit (Index.ofStore store) c = .ok out := by
  have hextends := h.extends_ofStore
  have hw := Index.wellFormed_ofStore store
  have hclass := hextends.class?_of_mem c hc
  refine ⟨hclass, hextends.plan_eq hw hc, fun renderer => ⟨hextends.emit_eq hw hc renderer, ?_⟩⟩
  intro rendering hrendered
  obtain ⟨out, hout, hemit⟩ := exists_output_of_renderAll hrendered (Index.mem_of_class? hclass)
  exact ⟨out, hout, (hextends.emit_eq hw hc renderer).symm.trans hemit⟩

/-- Two classes, one below the other, and a property of all resources. -/
def menagerie : List Statement := [
  ⟨.iri "x:zoo", .iri naoAbbreviation, .literal "Zoo" none, none⟩,
  ⟨.iri "x:Animal", .iri rdfType, .iri rdfsClass, some (.iri "x:zoo")⟩,
  ⟨.iri "x:Cat", .iri rdfType, .iri owlClass, none⟩,
  ⟨.iri "x:Cat", .iri rdfsSubClassOf, .iri "x:Animal", none⟩,
  ⟨.iri "x:name", .iri rdfType, .iri rdfProperty, none⟩,
  ⟨.iri "x:name", .iri rdfsDomain, .iri rdfsResource, none⟩,
  ⟨.iri "x:name", .iri rdfsRange, .iri xsdString, none⟩]

/-- A third class below the others, in the graph of one of them. -/
def lion : List Statement := [
  ⟨.iri "x:Lion", .iri rdfType, .iri rdfsClass, some (.iri "x:zoo")⟩,
  ⟨.iri "x:Lion", .iri rdfsSubClassOf, .iri "x:Cat", none⟩,
  ⟨.iri "x:Lion", .iri rdfsSubClassOf, .blank "b", none⟩,
  ⟨.iri "x:Lion", .iri rdfsLabel, .literal "Cat" none, some (.blank "b")⟩,
  ⟨.iri "x:Lion", .iri rdfsComment, .iri "x:name", none⟩]

/-- The lower one of the two. -/
def cat : ClassInfo := ⟨"x:Cat", "Cat", none, "x", ["x:Animal"]⟩

theorem ofStore_menagerie : Index.ofStore (.ofList menagerie) =
    { classes := [⟨"x:Animal", "Animal", none, "zoo", []⟩, cat]
      properties := [⟨"x:name", [rdfsResource], xsdString, .unbounded, none, "x"⟩] } :=
  (Index.inserted.property _).trans (by decide +kernel)

theorem plan_together_lion :
    NewClass (.ofList menagerie) "x:Lion" lion ∧
    "x:Lion" ∈ Index.classIris (Store.together (.ofList menagerie) lion) ∧
    cat ∈ (Index.ofStore (.ofList menagerie)).classes ∧
    (Index.ofStore (Store.together (.ofList menagerie) lion)).class? "x:Cat" = some cat ∧
    (∀ declare, (Index.ofStore (Store.together (.ofList menagerie) lion)).plan declare cat =
      (Index.ofStore (.ofList menagerie)).plan declare cat) ∧
    ∀ renderer : Renderer,
      renderer.emit (Index.ofStore (Store.together (.ofList menagerie) lion)) cat =
        renderer.emit (Index.ofStore (.ofList menagerie)) cat := by
  have hnew : NewClass (.ofList menagerie) "x:Lion" lion := by
    refine ⟨fun st hst => ?_, ?_⟩
    · rw [Store.mem_ofList] at hst
      revert st
      decide
    · simp only [lion, List.forall_mem_cons]
      exact ⟨.type _ (by decide), .about _ _ (by decide), .about _ _ (by decide),
        .about _ _ (by decide), .about _ _ (by decide), by simp⟩
  have hindexed : "x:Lion" ∈ Index.classIris (Store.together (.ofList menagerie) lion) :=
    Index.mem_classIris.mpr ⟨by decide, rdfsClass, by decide, _,
      Store.mem_together.mpr (.inr List.mem_cons_self)⟩
  have hcat : cat ∈ (Index.ofStore (.ofList menagerie)).classes := by
    rw [ofStore_menagerie]
    simp
  obtain ⟨hclass, hplan, hfiles⟩ := hnew.plan_together hcat
  exact ⟨hnew, hindexed, hcat, hclass, hplan, fun renderer => (hfiles renderer).1⟩

end NewClass

end OntoWrap
