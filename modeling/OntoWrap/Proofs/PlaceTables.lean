import OntoWrap.Proofs.Lookups
import OntoWrap.Proofs.Tables
import OntoWrap.Rdf.Places

/-!
# Look-ups through tables

The table of a position knows of each term exactly the places where it stands.  So a look-up that
begins at the places of its subject or predicate finds what a scan of all statements finds, in the
same order (`Store.filter_candidates`).
-/
namespace OntoWrap

/-- The places of a term are those where it stands. -/
theorem Places.valuesOf_ofStatements (position : Statement → Term) (statements : List Statement)
    (term : Term) : (ofStatements position statements).valuesOf term =
      (statements.zipIdx.filter fun (st, _) => position st == term).map (·.2) := by
  rw [ofStatements, Table.valuesOf_addAll_nil, List.filter_map, List.map_map]
  rfl

namespace Store

/-- **The places of a term lead to the statements that a scan finds.** -/
theorem statementsAt_eq_filter (store : Store) (position : Statement → Term) (term : Term) :
    store.statementsAt position term = store.toList.filter (position · == term) := by
  have hread : ∀ numbered ∈ store.toList.zipIdx.filter fun (st, _) => position st == term,
      store.toList[numbered.2]? = some numbered.1 := by
    intro numbered hnumbered
    exact List.mem_zipIdx_iff_getElem?.mp (List.mem_filter.mp hnumbered).1
  calc store.statementsAt position term
      = (store.toList.zipIdx.filter fun (st, _) => position st == term).filterMap
          (some ·.1) := by
        rw [statementsAt, places, Places.valuesOf_ofStatements, List.filterMap_map]
        exact List.filterMap_congr hread
    _ = (store.toList.zipIdx.map (·.1)).filter (position · == term) := by
        rw [List.filterMap_eq_map', List.filter_map]
        rfl
    _ = store.toList.filter (position · == term) := by rw [List.zipIdx_map_fst]

/-- **A look-up through the tables finds what a scan finds**, in the same order. -/
theorem filter_candidates (store : Store) (subject predicate object : Option Term) :
    ((store.candidates subject predicate).filter fun st =>
      fits subject st.subject && fits predicate st.predicate && fits object st.object) =
      store.matching subject predicate object := by
  rw [matching]
  cases subject with
  | some subject =>
    rw [candidates, statementsAt_eq_filter, List.filter_filter]
    refine List.filter_congr fun st _ => ?_
    rw [fits_some]
    cases st.subject == subject <;> simp
  | none =>
    cases predicate with
    | some predicate =>
      rw [candidates, statementsAt_eq_filter, List.filter_filter]
      refine List.filter_congr fun st _ => ?_
      rw [fits_some]
      cases st.predicate == predicate <;> simp
    | none => rfl

end Store

end OntoWrap
