import OntoWrap.Proofs.SameStatements

/-!
# Gathering documents, some of which cannot be read

A corpus is told by the documents that were read (`Corpus.gathering`): each call takes it to the
corpus of one document more, or leaves it as it is (`Corpus.tryAdd_gathering`).  So after any calls
the corpus is that of the readable documents, in their order, and its store holds what they state
and a root domain for each property that one of them declares and none of them gives a domain
(`Corpus.gathered_tryAddAll`).  A document that comes later or speaks in another graph may give the
domain; one that cannot be read may not.
-/
namespace OntoWrap

open Vocabulary

/-! ## 1. What documents lack -/

/-- Some document declares a property, and none of them gives it a domain, in whatever graph. -/
def NeedsRoot (documents : List Document.Contents) (property : String) : Prop :=
  (∃ document ∈ documents, DeclaresProperty document.statements property) ∧
    ∀ document ∈ documents, LacksDomain document.statements property

theorem states_flatMap_iff {documents : List Document.Contents} {subject predicate : String}
    {object : Term} : States (documents.flatMap (·.statements)) subject predicate object ↔
      ∃ document ∈ documents, States document.statements subject predicate object := by
  simp only [States, List.mem_flatMap]
  constructor
  · rintro ⟨graph, document, hdocument, hst⟩
    exact ⟨document, hdocument, graph, hst⟩
  · rintro ⟨document, hdocument, graph, hst⟩
    exact ⟨graph, document, hdocument, hst⟩

namespace Corpus

theorem mem_domainless_flatMap {documents : List Document.Contents} {property : String} :
    property ∈ domainless (documents.flatMap (·.statements)) ↔ NeedsRoot documents property := by
  simp only [mem_domainless, NeedsRoot, DeclaresProperty, LacksDomain, states_flatMap_iff]
  constructor
  · rintro ⟨⟨type, htype, document, hdocument, hdeclares⟩, hlacks⟩
    exact ⟨⟨document, hdocument, type, htype, hdeclares⟩, fun other hother object hdomain =>
      hlacks object ⟨other, hother, hdomain⟩⟩
  · rintro ⟨⟨document, hdocument, type, htype, hdeclares⟩, hlacks⟩
    refine ⟨⟨type, htype, document, hdocument, hdeclares⟩, ?_⟩
    rintro object ⟨other, hother, hdomain⟩
    exact hlacks other hother object hdomain

/-! ## 2. Root domains -/

/-- Some statements with a root domain for each declared property that has no domain. -/
def withRootDomains (statements : List Statement) : List Statement :=
  statements ++ (domainless statements).map rootDomain

theorem store_eq_ofList (corpus : Corpus) :
    corpus.store = .ofList (withRootDomains corpus.statements) :=
  rfl

/-- **Afterwards no declared property lacks a domain.** -/
theorem domainless_withRootDomains (statements : List Statement) :
    domainless (withRootDomains statements) = [] := by
  refine List.eq_nil_iff_forall_not_mem.mpr fun property hproperty => ?_
  obtain ⟨⟨type, htype, graph, hdeclares⟩, hlacks⟩ := mem_domainless.mp hproperty
  have hdeclares : ⟨.iri property, .iri rdfType, .iri type, graph⟩ ∈ statements := by
    rcases List.mem_append.mp hdeclares with hst | hadded
    · exact hst
    · obtain ⟨other, -, hsame⟩ := List.mem_map.mp hadded
      have hpredicate : rdfsDomain = rdfType := by
        simpa [rootDomain] using (congrArg Statement.predicate hsame)
      exact absurd hpredicate (by decide)
  have hneeds : property ∈ domainless statements := by
    refine mem_domainless.mpr ⟨⟨type, htype, graph, hdeclares⟩, ?_⟩
    rintro object ⟨graph, hdomain⟩
    exact hlacks object ⟨graph, List.mem_append_left _ hdomain⟩
  exact hlacks (.iri rdfsResource) ⟨none, List.mem_append_right _ (List.mem_map_of_mem hneeds)⟩

theorem withRootDomains_idem (statements : List Statement) :
    withRootDomains (withRootDomains statements) = withRootDomains statements := by
  rw [withRootDomains, domainless_withRootDomains, List.map_nil, List.append_nil]

/-- The statements of a store, gathered again, give the same store. -/
theorem store_toList (corpus : Corpus) (sources : Nat) :
    (Corpus.mk corpus.store.toList sources).store = corpus.store := by
  have hsame : ∀ st, st ∈ corpus.store.toList ↔ st ∈ withRootDomains corpus.statements := fun st =>
    Store.mem_ofList
  rw [store_eq_ofList (Corpus.mk corpus.store.toList sources), withRootDomains, domainless_eq hsame,
    domainless_withRootDomains, List.map_nil, List.append_nil, store_eq_ofList corpus]
  exact Store.alike_iff_eq.mp (Store.alike_ofList_iff.mpr hsame)

/-! ## 3. Calls -/

/-- The documents among some sources. -/
def documentsOf (read : Format → String → Option Document.Contents) (sources : List Source) :
    List Document.Contents :=
  sources.filterMap fun source => read source.format source.text

/-- The corpus of some documents, computed from all of them at once. -/
def gathering (documents : List Document.Contents) : Corpus where
  statements := documents.flatMap (·.statements)
  sources := documents.length

/-- The answer to a call, which does not depend on the calls before it. -/
def answerTo (read : Format → String → Option Document.Contents) (source : Source) :
    Except LoadFault Nat :=
  match read source.format source.text with
  | some document => .ok document.statements.length
  | none => .error (.malformed source.name source.format)

variable {read : Format → String → Option Document.Contents} {documents : List Document.Contents}

theorem add_gathering (document : Document.Contents) :
    (gathering documents).add document = gathering (documents ++ [document]) := by
  simp [add, gathering]

/-- **A call adds a document or nothing.** -/
theorem tryAdd_gathering (source : Source) : (gathering documents).tryAdd read source =
    (answerTo read source, gathering (documents ++ documentsOf read [source])) := by
  unfold tryAdd Source.contents answerTo documentsOf
  cases hread : read source.format source.text with
  | none => simp [hread]
  | some document => simp [hread, add_gathering]

/-- **Any number of calls** add the documents among their sources.  The induction is on the calls
that are still to come. -/
theorem tryAddAll_gathering (sources : List Source) : (gathering documents).tryAddAll read sources =
    (sources.map (answerTo read), gathering (documents ++ documentsOf read sources)) := by
  induction sources generalizing documents with
  | nil => simp [tryAddAll, documentsOf]
  | cons source rest ih =>
    have hdocuments : documentsOf read (source :: rest) =
        documentsOf read [source] ++ documentsOf read rest := by
      rw [documentsOf, ← List.singleton_append, List.filterMap_append]
      rfl
    simp only [tryAddAll, tryAdd_gathering, ih]
    rw [hdocuments, List.map_cons, List.append_assoc]

/-- Calls that are not answered with a fault are those that read a document. -/
theorem countP_isOk_answers (sources : List Source) :
    (sources.map (answerTo read)).countP Except.isOk = (documentsOf read sources).length := by
  induction sources with
  | nil => rfl
  | cons source rest ih =>
    rw [List.map_cons, List.countP_cons, ih, documentsOf, documentsOf, List.filterMap_cons,
      answerTo]
    cases read source.format source.text with
    | none => rfl
    | some document => rfl

/-! ## 4. The store of some documents -/

theorem mem_store_gathering {st : Statement} : st ∈ (gathering documents).store.toList ↔
    (∃ document ∈ documents, st ∈ document.statements) ∨
      ∃ property, NeedsRoot documents property ∧ st = rootDomain property := by
  rw [store_eq_ofList, Store.mem_ofList, withRootDomains, List.mem_append, List.mem_map]
  refine or_congr List.mem_flatMap (exists_congr fun property => ?_)
  exact and_congr mem_domainless_flatMap eq_comm

/-- **A property that needs a root domain has no other domain in the store**, and this one once. -/
theorem filter_store_gathering {property : String} (h : NeedsRoot documents property) :
    ((gathering documents).store.toList.filter fun st =>
      st.subject = .iri property ∧ st.predicate = .iri rdfsDomain) = [rootDomain property] := by
  refine Ascending.eq_of_mem_iff ((pairwise_ascending _).filter _) (List.pairwise_singleton _ _)
    fun st => ?_
  rw [List.mem_filter, decide_eq_true_iff, List.mem_singleton, mem_store_gathering]
  constructor
  · rintro ⟨⟨document, hdocument, hst⟩ | ⟨other, -, rfl⟩, hsubject, hpredicate⟩
    · obtain ⟨s, p, object, graph⟩ := st
      obtain ⟨rfl, rfl⟩ : s = .iri property ∧ p = .iri rdfsDomain := ⟨hsubject, hpredicate⟩
      exact absurd ⟨graph, hst⟩ (h.2 document hdocument object)
    · rw [Term.iri.inj hsubject]
  · rintro rfl
    exact ⟨.inr ⟨property, h, rfl⟩, rfl, rfl⟩

/-! ## 5. Runs -/

/-- **What a run of calls leads to**, from an empty corpus. -/
structure Gathered (read : Format → String → Option Document.Contents) (sources : List Source)
    (answers : List (Except LoadFault Nat)) (corpus : Corpus) : Prop where
  /-- Each call is answered by what its source alone tells. -/
  answers_eq : answers = sources.map (answerTo read)
  /-- As many documents are counted as calls succeed. -/
  count : corpus.sources = answers.countP Except.isOk
  /-- The store holds what the documents state, and the root domains that they need. -/
  mem_store : ∀ st, st ∈ corpus.store.toList ↔
    (∃ document ∈ documentsOf read sources, st ∈ document.statements) ∨
      ∃ property, NeedsRoot (documentsOf read sources) property ∧
        st = ⟨.iri property, .iri rdfsDomain, .iri rdfsResource, none⟩
  /-- A property that needs a root domain has this one domain in the store, and once. -/
  domain_once : ∀ property, NeedsRoot (documentsOf read sources) property →
    (corpus.store.toList.filter fun st =>
      st.subject = .iri property ∧ st.predicate = .iri rdfsDomain) =
        [⟨.iri property, .iri rdfsDomain, .iri rdfsResource, none⟩]
  /-- Without the calls that fail, the corpus is the same. -/
  no_trace : corpus = (tryAddAll read {}
    (sources.filter fun source => (answerTo read source).isOk)).2
  /-- There are no further root domains to add, whether to the statements or to those of the
  store. -/
  idempotent : withRootDomains (withRootDomains corpus.statements)
    = withRootDomains corpus.statements
  reloaded : ∀ count, (Corpus.mk corpus.store.toList count).store = corpus.store

theorem filter_documentsOf (sources : List Source) :
    documentsOf read (sources.filter fun source => (answerTo read source).isOk) =
      documentsOf read sources := by
  rw [documentsOf, List.filterMap_filter, documentsOf]
  refine List.filterMap_congr fun source _ => ?_
  rw [answerTo]
  cases read source.format source.text with
  | none => rfl
  | some document => rfl

/-- **Runs of calls**, any of which may fail, for any reading of documents. -/
theorem gathered_tryAddAll (read : Format → String → Option Document.Contents)
    (sources : List Source) :
    Gathered read sources (tryAddAll read {} sources).1 (tryAddAll read {} sources).2 := by
  have hrun : ∀ sources : List Source, tryAddAll read {} sources =
      (sources.map (answerTo read), gathering (documentsOf read sources)) := fun sources =>
    (tryAddAll_gathering sources : tryAddAll read (gathering []) sources = _)
  rw [hrun]
  constructor
  · rfl
  · exact (countP_isOk_answers sources).symm
  · exact fun st => mem_store_gathering
  · exact fun property => filter_store_gathering
  · rw [hrun, filter_documentsOf]
  · exact withRootDomains_idem _
  · exact store_toList _

/-- A source that cannot be read is answered with a fault and does not count. -/
example : ((tryAddAll Document.read {} [readable, unreadable, readable]).1.map Except.isOk,
    (tryAddAll Document.read {} [readable, unreadable, readable]).2.sources)
      = ([true, false, true], 2) := by
  cbv

end Corpus

end OntoWrap
