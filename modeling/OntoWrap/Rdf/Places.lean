import OntoWrap.Rdf.Store
import OntoWrap.Table

/-!
# Places of terms

A table says at which places of a list of statements a term stands as subject, or as predicate.  It
is filled in one pass over the list.  With such tables a look-up need not scan all statements: it
begins at the places of its subject, or else of its predicate.
-/
namespace OntoWrap

/-! ## 1. Tables -/

/-- Terms with their places. -/
abbrev Places := Table Term Nat

/-- The places of the terms that stand in one position of some statements. -/
def Places.ofStatements (position : Statement → Term) (statements : List Statement) : Places :=
  Table.addAll [] (statements.zipIdx.map fun (st, place) => (position st, place))

/-! ## 2. Look-ups -/

namespace Store

/-- The table of the terms in one position. -/
def places (store : Store) (position : Statement → Term) : Places :=
  .ofStatements position store.toList

/-- The statements at the places of a term. -/
def statementsAt (store : Store) (position : Statement → Term) (term : Term) : List Statement :=
  ((store.places position).valuesOf term).filterMap (store.toList[·]?)

/-- Where a look-up begins: at the places of its subject, else at those of its predicate, else with
all statements. -/
def candidates (store : Store) : Option Term → Option Term → List Statement
  | some subject, _ => store.statementsAt (·.subject) subject
  | none, some predicate => store.statementsAt (·.predicate) predicate
  | none, none => store.toList

/-! ## 3. Look-ups that begin with a table -/

/-- Statements with the given terms, from where the look-up begins. -/
def matchingByPlace (store : Store) (subject predicate object : Option Term) : List Statement :=
  (store.candidates subject predicate).filter fun st =>
    fits subject st.subject && fits predicate st.predicate && fits object st.object

/-- Objects that a subject has under a predicate, from the places of the subject. -/
def objectsByPlace (store : Store) (subject predicate : String) : List Term :=
  ascending (((store.statementsAt (·.subject) (.iri subject)).filter
    (·.predicate == .iri predicate)).map (·.object))

/-- IRIs that have an object under a predicate, from the places of the predicate. -/
def subjectsByPlace (store : Store) (predicate : String) (object : Term) : List String :=
  ascending (((store.statementsAt (·.predicate) (.iri predicate)).filter
    (·.object == object)).filterMap (·.subject.asIri?))

/-- Whether a statement holds in some graph, from the places of its subject. -/
def containsByPlace (store : Store) (subject predicate : String) (object : Term) : Bool :=
  (store.statementsAt (·.subject) (.iri subject)).any fun st =>
    st.predicate.asIri? == some predicate && st.object == object

end Store

end OntoWrap
