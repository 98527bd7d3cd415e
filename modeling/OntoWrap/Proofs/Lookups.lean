import OntoWrap.Proofs.Ascending
import OntoWrap.Rdf.Store

/-!
# Look-ups as membership

A look-up in a store answers with exactly the terms for which some statement of the store says so,
in whatever graph.  These are the only facts about the look-ups that later modules use.
-/
namespace OntoWrap

/-- A term is an IRI with a name if that is its name. -/
theorem Term.asIri?_eq_some_iff {term : Term} {name : String} :
    term.asIri? = some name ↔ term = .iri name := by
  cases term <;> simp [asIri?]

/-- Some of the statements says it, in whatever graph. -/
def States (statements : List Statement) (subject predicate : String) (object : Term) : Prop :=
  ∃ graph, ⟨.iri subject, .iri predicate, object, graph⟩ ∈ statements

/-- A statement has the given terms; where none is given, any will do. -/
def Statement.Has (st : Statement) (subject predicate object : Option Term) : Prop :=
  (∀ t ∈ subject, st.subject = t) ∧ (∀ t ∈ predicate, st.predicate = t) ∧
    ∀ t ∈ object, st.object = t

instance (st : Statement) (subject predicate object : Option Term) :
    Decidable (st.Has subject predicate object) := inferInstanceAs (Decidable (_ ∧ _ ∧ _))

namespace Store

variable {store : Store} {subject predicate : String} {object : Term}

/-- The statements of a closed store, in a form that can be evaluated. -/
theorem toList_ofList (statements : List Statement) :
    (ofList statements).toList = statements.foldr insertAscending [] :=
  ascending_eq_foldr statements

theorem fits_some (wanted term : Term) : fits (some wanted) term = (term == wanted) := Bool.beq_comm

theorem fits_iff {wanted : Option Term} {term : Term} :
    fits wanted term = true ↔ ∀ t ∈ wanted, term = t := by
  cases wanted with
  | none => simp [fits]
  | some t => simp only [fits_some, beq_iff_eq, Option.mem_some_iff, forall_eq']

theorem has_iff_fits {st : Statement} {subject predicate object : Option Term} :
    st.Has subject predicate object ↔
      (fits subject st.subject && fits predicate st.predicate && fits object st.object) = true := by
  rw [Statement.Has, Bool.and_eq_true, Bool.and_eq_true, fits_iff, fits_iff, fits_iff, and_assoc]

/-- **A look-up finds the statements with the given terms.** -/
theorem mem_matching {st : Statement} {subject predicate object : Option Term} :
    st ∈ store.matching subject predicate object ↔
      st ∈ store.toList ∧ st.Has subject predicate object := by
  rw [matching, List.mem_filter, has_iff_fits]

theorem pairwise_objects (store : Store) (subject predicate : String) :
    (store.objects subject predicate).Pairwise fun a b => compare a b = .lt := pairwise_ascending _

theorem pairwise_subjects (store : Store) (predicate : String) (object : Term) :
    (store.subjects predicate object).Pairwise fun a b => compare a b = .lt := pairwise_ascending _

theorem mem_objects :
    object ∈ store.objects subject predicate ↔
      ∃ graph, ⟨.iri subject, .iri predicate, object, graph⟩ ∈ store.toList := by
  simp only [objects, mem_ascending, List.mem_map, mem_matching, Statement.Has, Option.mem_some_iff,
    forall_eq']
  constructor
  · rintro ⟨⟨s, p, o, graph⟩, ⟨hst, rfl, rfl, -⟩, rfl⟩
    exact ⟨graph, hst⟩
  · rintro ⟨graph, hst⟩
    exact ⟨_, ⟨hst, rfl, rfl, by simp⟩, rfl⟩

/-- The objects depend on what is stated, but not on the graphs. -/
theorem objects_congr {s t : Store}
    (h : ∀ object, States s.toList subject predicate object ↔
      States t.toList subject predicate object) :
    s.objects subject predicate = t.objects subject predicate := by
  refine Ascending.eq_of_mem_iff (pairwise_objects ..) (pairwise_objects ..) fun object => ?_
  rw [mem_objects, mem_objects]
  exact h object

theorem mem_subjects :
    subject ∈ store.subjects predicate object ↔
      ∃ graph, ⟨.iri subject, .iri predicate, object, graph⟩ ∈ store.toList := by
  simp only [subjects, mem_ascending, List.mem_filterMap, mem_matching, Statement.Has,
    Option.mem_some_iff, forall_eq', Term.asIri?_eq_some_iff]
  constructor
  · rintro ⟨⟨s, p, o, graph⟩, ⟨hst, -, rfl, rfl⟩, rfl⟩
    exact ⟨graph, hst⟩
  · rintro ⟨graph, hst⟩
    exact ⟨_, ⟨hst, by simp, rfl, rfl⟩, rfl⟩

theorem contains_iff_exists :
    store.contains subject predicate object = true ↔
      ∃ st, st ∈ store.matching (some (.iri subject)) (some (.iri predicate)) (some object) := by
  rw [contains, Bool.not_eq_true', List.isEmpty_eq_false_iff_exists_mem]

theorem contains_iff_states :
    store.contains subject predicate object = true ↔
      States store.toList subject predicate object := by
  simp only [contains_iff_exists, mem_matching, Statement.Has, Option.mem_some_iff, forall_eq']
  constructor
  · rintro ⟨⟨s, p, o, graph⟩, hst, rfl, rfl, rfl⟩
    exact ⟨graph, hst⟩
  · rintro ⟨graph, hst⟩
    exact ⟨_, hst, rfl, rfl, rfl⟩

theorem contains_congr {s t : Store}
    (h : States s.toList subject predicate object ↔ States t.toList subject predicate object) :
    s.contains subject predicate object = t.contains subject predicate object := by
  rw [Bool.eq_iff_iff, contains_iff_states, contains_iff_states]
  exact h

end Store

end OntoWrap
