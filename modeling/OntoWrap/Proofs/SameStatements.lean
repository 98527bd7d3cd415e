import OntoWrap.Generation
import OntoWrap.Proofs.Documents
import OntoWrap.Proofs.PlaceTables

/-!
# Statements count as a set

It does not matter in which order, how often and in which documents statements are given.  A store
is the normal form of the set of its statements (`Store.alike_ofList_iff`), and the domains that
gathering adds depend on this set only (`Corpus.domainless_eq`).  So documents with the same
statements lead to the same store, whatever they are called and however the statements are spread
over them, and from there to the same index and the same outputs or the same fault
(`same_statements_alike`).
-/
namespace OntoWrap

/-! ## 1. Stores -/

namespace Store

/-- **Nothing tells two stores apart**: neither the order of the statements and the tables of their
places, nor what is indexed, planned and rendered, for any settings. -/
structure Alike (s t : Store) : Prop where
  order : s.toList = t.toList
  subjects : s.places (·.subject) = t.places (·.subject)
  predicates : s.places (·.predicate) = t.places (·.predicate)
  index : Index.ofStore s = Index.ofStore t
  renderings : ∀ settings : Settings,
    renderAll (.ofStore s) settings.renderer = renderAll (.ofStore t) settings.renderer

theorem alike_iff_eq {s t : Store} : s.Alike t ↔ s = t := by
  constructor
  · rintro ⟨horder, -⟩
    cases s
    cases t
    exact congrArg Store.mk (Ascending.toList_injective horder)
  · rintro rfl
    exact ⟨rfl, rfl, rfl, rfl, fun _ => rfl⟩

/-- **A store is a normal form**: lists give one store if they have the same members. -/
theorem alike_ofList_iff {l m : List Statement} :
    (ofList l).Alike (ofList m) ↔ ∀ st, st ∈ l ↔ st ∈ m := by
  rw [alike_iff_eq, ← Ascending.ofList_eq_iff, ofList, ofList, Store.mk.injEq]

end Store

/-! ## 2. Gathering -/

theorem mem_statedBy {documents : List (Except LoadFault Document.Contents)} {st : Statement} :
    st ∈ statedBy documents ↔ ∃ contents, .ok contents ∈ documents ∧ st ∈ contents.statements := by
  have hread : ∀ document contents, Except.toOption document = some contents ↔
      document = (.ok contents : Except LoadFault Document.Contents) := by
    intro document contents
    cases document <;> simp [Except.toOption]
  simp only [statedBy, List.mem_flatMap, List.mem_filterMap, hread, exists_eq_right]

namespace Corpus

variable {l m : List Statement}

/-- The properties that get the root as their domain depend on the set of statements only. -/
theorem domainless_eq (h : ∀ st, st ∈ l ↔ st ∈ m) : domainless l = domainless m :=
  domainless_eq_of_sameTriples fun triple => by simp only [List.mem_map, h]

theorem alike_store {corpus corpus' : Corpus}
    (h : ∀ st, st ∈ corpus.statements ↔ st ∈ corpus'.statements) :
    corpus.store.Alike corpus'.store := by
  refine Store.alike_ofList_iff.mpr fun st => ?_
  rw [List.mem_append, List.mem_append, h, domainless_eq h]

/-- Sources that are added one by one give what the readable ones state. -/
theorem statements_foldl_addSource (read : Format → String → Option Document.Contents)
    (sources : List Source) :
    (sources.foldl (addSource read) {}).statements = statedBy (sources.map (·.contents read)) := by
  suffices hrun : ∀ start : Corpus, (sources.foldl (addSource read) start).statements =
      start.statements ++ statedBy (sources.map (·.contents read)) from hrun {}
  induction sources with
  | nil => simp [statedBy]
  | cons source rest ih =>
    intro start
    rw [List.foldl_cons, ih, addSource, List.map_cons, statedBy, statedBy]
    cases source.contents read with
    | ok contents => exact List.append_assoc ..
    | error fault => rfl

end Corpus

/-! ## 3. Order, multiplicity and documents -/

/-- **Order and multiplicity of statements do not matter**, and neither does the document in which a
statement stands. -/
theorem same_statements_alike :
    (∀ l m : List Statement, (Store.ofList l).Alike (.ofList m) ↔ ∀ st, st ∈ l ↔ st ∈ m) ∧
    (∀ documents documents' corpus corpus', Corpus.ofDocuments documents = .ok corpus →
      Corpus.ofDocuments documents' = .ok corpus' →
      (∀ st, st ∈ statedBy documents ↔ st ∈ statedBy documents') →
        corpus.store.Alike corpus'.store) ∧
    ∀ (read : Format → String → Option Document.Contents) (sources sources' : List Source),
      (∀ st, st ∈ statedBy (sources.map (·.contents read)) ↔
        st ∈ statedBy (sources'.map (·.contents read))) →
      (sources.foldl (Corpus.addSource read) {}).store.Alike
        (sources'.foldl (Corpus.addSource read) {}).store := by
  refine ⟨fun l m => Store.alike_ofList_iff, ?_, ?_⟩
  · intro documents documents' corpus corpus' hcorpus hcorpus' hsame
    refine Corpus.alike_store fun st => ?_
    rw [Corpus.statements_ofDocuments hcorpus, Corpus.statements_ofDocuments hcorpus', hsame]
  · intro read sources sources' hsame
    refine Corpus.alike_store fun st => ?_
    rw [Corpus.statements_foldl_addSource, Corpus.statements_foldl_addSource, hsame]

/-- A property with a range and without a domain. -/
def typed : Statement := ⟨.iri "x:p", .iri Vocabulary.rdfType, .iri Vocabulary.rdfProperty, none⟩
@[inherit_doc typed] def ranged : Statement :=
  ⟨.iri "x:p", .iri Vocabulary.rdfsRange, .iri "x:Cell", some (.iri "x:g")⟩

/-- Two sources, one of which cannot be read. -/
def readable : Source := ⟨"a.nt", .nTriples, "<x:p> <x:q> <x:r> .\n"⟩
@[inherit_doc readable] def unreadable : Source := ⟨"b.nt", .nTriples, "<x:p>"⟩

/-- The statements about the property in one document, and spread over three. -/
def oneDocument : List (Except LoadFault Document.Contents) := [.ok ⟨[typed, ranged, typed], 0⟩]
@[inherit_doc oneDocument] def threeDocuments : List (Except LoadFault Document.Contents) :=
  [.ok ⟨[ranged], 0⟩, .ok ⟨[], 0⟩, .ok ⟨[typed], 1⟩]

theorem same_statements_alike_spread :
    (Store.ofList [typed, ranged, typed]).Alike (.ofList [ranged, typed]) ∧
    (∃ corpus corpus', Corpus.ofDocuments oneDocument = .ok corpus ∧
      Corpus.ofDocuments threeDocuments = .ok corpus' ∧ corpus.store.Alike corpus'.store) ∧
    ([readable, unreadable].foldl (Corpus.addSource Document.read) {}).store.Alike
      ([unreadable, readable, readable].foldl (Corpus.addSource Document.read) {}).store := by
  obtain ⟨hlists, hdocuments, hsources⟩ := same_statements_alike
  have hone : Corpus.ofDocuments oneDocument = .ok ⟨[typed, ranged, typed], 1⟩ := rfl
  have hthree : Corpus.ofDocuments threeDocuments = .ok ⟨[ranged, typed], 3⟩ := rfl
  refine ⟨(hlists _ _).mpr fun st => ?_,
    ⟨_, _, hone, hthree, hdocuments _ _ _ _ hone hthree fun st => ?_⟩, hsources _ _ _ fun st => ?_⟩
  · simp only [List.mem_cons, List.not_mem_nil]
    tauto
  · rw [← Corpus.statements_ofDocuments hone, ← Corpus.statements_ofDocuments hthree]
    simp only [List.mem_cons, List.not_mem_nil]
    tauto
  · simp only [mem_statedBy, List.map_cons, List.map_nil, List.mem_cons, List.not_mem_nil]
    refine exists_congr fun contents => and_congr_left fun _ => ?_
    tauto

end OntoWrap
