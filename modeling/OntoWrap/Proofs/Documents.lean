import OntoWrap.Corpus
import OntoWrap.Proofs.IndexEntries
import OntoWrap.Proofs.Rendering

/-!
# What the store of some documents says

A store says what the documents say, in whatever graph and however often, with one exception: a
declared property that no document gives a domain belongs to the root (`states_domain_store`).  An
object that is no IRI counts as a domain here, so a property with such a domain belongs to nothing.
Which properties have no domain depends on the triples alone (`domainless_eq_of_sameTriples`).
-/
namespace OntoWrap

open Vocabulary

/-! ## 1. What documents declare -/

/-- All that some documents state, one after the other. -/
def statedBy (documents : List (Except LoadFault Document.Contents)) : List Statement :=
  (documents.filterMap Except.toOption).flatMap (·.statements)

/-- Some statement declares a class, and it is not the root. -/
def DeclaresClass (statements : List Statement) (iri : String) : Prop :=
  isRootType iri = false ∧ ∃ type ∈ classTypes, States statements iri rdfType (.iri type)

/-- Some statement declares a property. -/
def DeclaresProperty (statements : List Statement) (iri : String) : Prop :=
  ∃ type ∈ propertyTypes, States statements iri rdfType (.iri type)

/-- No statement gives a property a domain, whatever the object. -/
def LacksDomain (statements : List Statement) (property : String) : Prop :=
  ∀ object, ¬ States statements property rdfsDomain object

/-! ## 2. Triples -/

/-- What a statement says, without the graph in which it is made. -/
def Statement.triple (st : Statement) : Term × Term × Term := (st.subject, st.predicate, st.object)

/-- Two lists of statements hold the same triples, in whatever graphs, however often and in any
order. -/
def SameTriples (l m : List Statement) : Prop :=
  ∀ triple, triple ∈ l.map Statement.triple ↔ triple ∈ m.map Statement.triple

theorem mem_map_triple {statements : List Statement} {s p o : Term} :
    (s, p, o) ∈ statements.map Statement.triple ↔ ∃ graph, ⟨s, p, o, graph⟩ ∈ statements := by
  rw [List.mem_map]
  constructor
  · rintro ⟨⟨s', p', o', graph⟩, hst, htriple⟩
    obtain ⟨rfl, rfl, rfl⟩ : s' = s ∧ p' = p ∧ o' = o := by simpa [Statement.triple] using htriple
    exact ⟨graph, hst⟩
  · rintro ⟨graph, hst⟩
    exact ⟨_, hst, rfl⟩

theorem SameTriples.states_iff {l m : List Statement} (h : SameTriples l m)
    {subject predicate : String} {object : Term} :
    States l subject predicate object ↔ States m subject predicate object := by
  rw [States, States, ← mem_map_triple, ← mem_map_triple, h]

namespace Corpus

variable {statements : List Statement} {corpus : Corpus} {subject predicate property : String}
  {object : Term}

/-! ## 3. Gathering -/

/-- A corpus of readable documents holds what they state, in their order. -/
theorem statements_ofDocuments {documents : List (Except LoadFault Document.Contents)}
    (h : ofDocuments documents = .ok corpus) : corpus.statements = statedBy documents := by
  suffices hrun : ∀ start : Corpus,
      documents.foldlM (fun corpus contents => return corpus.add (← contents)) start = .ok corpus →
        corpus.statements = start.statements ++ statedBy documents from hrun {} h
  clear h
  induction documents with
  | nil =>
    intro start h
    obtain rfl := pure_eq_ok_iff.mp h
    simp [statedBy]
  | cons document rest ih =>
    intro start h
    rw [List.foldlM_cons] at h
    obtain ⟨next, hnext, hrest⟩ := bind_eq_ok_iff.mp h
    obtain ⟨contents, rfl, hadd⟩ := bind_eq_ok_iff.mp hnext
    obtain rfl := pure_eq_ok_iff.mp hadd
    rw [ih _ hrest]
    simp [add, statedBy, Except.toOption]

/-! ## 4. Properties without a domain -/

theorem declaredProperty?_eq_some_iff {st : Statement} :
    declaredProperty? st = some property ↔ st.subject = .iri property ∧
      st.predicate = .iri rdfType ∧ ∃ type ∈ propertyTypes, st.object = .iri type := by
  unfold declaredProperty?
  split
  · simp_all
    tauto
  · rename_i hother
    constructor
    · intro h
      cases h
    · rintro ⟨hs, hp, type, -, ho⟩
      exact absurd ho (hother _ _ _ hs hp)

theorem propertyWithDomain?_eq_some_iff {st : Statement} :
    propertyWithDomain? st = some property ↔
      st.subject = .iri property ∧ st.predicate = .iri rdfsDomain := by
  unfold propertyWithDomain?
  split
  · simp_all
    tauto
  · rename_i hother
    constructor
    · intro h
      cases h
    · rintro ⟨hs, hp⟩
      exact absurd hp (hother _ _ hs)

theorem mem_filterMap_declaredProperty? :
    property ∈ statements.filterMap declaredProperty? ↔ DeclaresProperty statements property := by
  simp only [List.mem_filterMap, declaredProperty?_eq_some_iff]
  constructor
  · rintro ⟨⟨s, p, o, graph⟩, hst, rfl, rfl, type, htype, rfl⟩
    exact ⟨type, htype, graph, hst⟩
  · rintro ⟨type, htype, graph, hst⟩
    exact ⟨_, hst, rfl, rfl, type, htype, rfl⟩

theorem mem_filterMap_propertyWithDomain? :
    property ∈ statements.filterMap propertyWithDomain? ↔ ¬ LacksDomain statements property := by
  simp only [List.mem_filterMap, propertyWithDomain?_eq_some_iff, LacksDomain, not_forall, not_not]
  constructor
  · rintro ⟨⟨s, p, o, graph⟩, hst, rfl, rfl⟩
    exact ⟨o, graph, hst⟩
  · rintro ⟨object, graph, hst⟩
    exact ⟨_, hst, rfl, rfl⟩

/-- A property gets the root as its domain if it is declared and no statement gives it a domain. -/
theorem mem_domainless :
    property ∈ domainless statements ↔
      DeclaresProperty statements property ∧ LacksDomain statements property := by
  have hcontains :
      (ascending (statements.filterMap propertyWithDomain?)).contains property = false ↔
        LacksDomain statements property := by
    rw [← Bool.not_eq_true, List.contains_iff_mem, mem_ascending, mem_filterMap_propertyWithDomain?,
      not_not]
  simp only [domainless, List.mem_filter, mem_ascending, mem_filterMap_declaredProperty?,
    Bool.not_eq_true', hcontains]

/-- These properties are the same for the same triples. -/
theorem domainless_eq_of_sameTriples {l m : List Statement} (h : SameTriples l m) :
    domainless l = domainless m := by
  refine Ascending.eq_of_mem_iff ((pairwise_ascending _).filter _) ((pairwise_ascending _).filter _)
    fun property => ?_
  simp only [mem_domainless, DeclaresProperty, LacksDomain, h.states_iff]

/-! ## 5. The store -/

theorem states_store_iff :
    States corpus.store.toList subject predicate object ↔
      States corpus.statements subject predicate object ∨
        subject ∈ domainless corpus.statements ∧ predicate = rdfsDomain ∧
          object = .iri rdfsResource := by
  simp only [States, store, Store.mem_ofList, List.mem_append, List.mem_map, rootDomain,
    Statement.mk.injEq, Term.iri.injEq]
  constructor
  · rintro ⟨graph, hst | ⟨_, hmem, rfl, rfl, rfl, -⟩⟩
    · exact .inl ⟨graph, hst⟩
    · exact .inr ⟨hmem, rfl, rfl⟩
  · rintro (⟨graph, hst⟩ | ⟨hmem, rfl, rfl⟩)
    · exact ⟨graph, .inl hst⟩
    · exact ⟨none, .inr ⟨subject, hmem, rfl, rfl, rfl, rfl⟩⟩

/-- But for domains, the store says what the documents say. -/
theorem states_store_of_ne (hne : predicate ≠ rdfsDomain) :
    States corpus.store.toList subject predicate object ↔
      States corpus.statements subject predicate object := by
  simp [states_store_iff, hne]

/-- **The domains in the store**: those of the documents, and the root for a declared property that
has none. -/
theorem states_domain_store :
    States corpus.store.toList property rdfsDomain object ↔
      States corpus.statements property rdfsDomain object ∨
        (DeclaresProperty corpus.statements property ∧ LacksDomain corpus.statements property) ∧
          object = .iri rdfsResource := by
  rw [states_store_iff, mem_domainless]
  simp

/-- A class of the index is one that the documents declare. -/
theorem mem_classIris_store {iri : String} :
    iri ∈ Index.classIris corpus.store ↔ DeclaresClass corpus.statements iri := by
  rw [Index.mem_classIris, DeclaresClass]
  refine and_congr_right fun _ => exists_congr fun type => and_congr_right fun _ => ?_
  exact states_store_of_ne (by decide)

end Corpus

end OntoWrap
