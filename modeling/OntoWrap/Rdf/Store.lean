import OntoWrap.Rdf.Term

/-!
# The statement store

A store is a finite set of statements in their order.  `Store.ofList` forgets how often and in which
order statements were given.  Every look-up is a scan of the ordered statements: `matching` keeps
the statements with given terms, and `objects`, `subjects` and `contains` project them.
-/
namespace OntoWrap

/-- Statements, each once and in order. -/
structure Store where
  statements : Ascending Statement
  deriving DecidableEq

namespace Store

/-! ## 1. Building and listing -/

/-- The store of some statements. -/
def ofList (statements : List Statement) : Store := ⟨.ofList statements⟩

/-- The statements in order. -/
def toList (store : Store) : List Statement := store.statements.toList

/-- Number of statements. -/
def size (store : Store) : Nat := store.toList.length

/-- Whether there is no statement. -/
def isEmpty (store : Store) : Bool := store.toList.isEmpty

theorem mem_ofList {statements : List Statement} {st : Statement} :
    st ∈ (ofList statements).toList ↔ st ∈ statements := Ascending.mem_ofList

/-! ## 2. Look-ups -/

/-- Whether a term is the wanted one; no wish is met by every term. -/
def fits (wanted : Option Term) (term : Term) : Bool := wanted.all (· == term)

/-- Statements with the given terms, in order, whatever their graph. -/
def matching (store : Store) (subject predicate object : Option Term) : List Statement :=
  store.toList.filter fun st =>
    fits subject st.subject && fits predicate st.predicate && fits object st.object

/-- Objects that a subject has under a predicate, each once and in order. -/
def objects (store : Store) (subject predicate : String) : List Term :=
  ascending ((store.matching (some (.iri subject)) (some (.iri predicate)) none).map (·.object))

/-- IRIs that have an object under a predicate, each once and in order. -/
def subjects (store : Store) (predicate : String) (object : Term) : List String :=
  ascending
    ((store.matching none (some (.iri predicate)) (some object)).filterMap (·.subject.asIri?))

/-- Whether a statement holds in some graph. -/
def contains (store : Store) (subject predicate : String) (object : Term) : Bool :=
  !(store.matching (some (.iri subject)) (some (.iri predicate)) (some object)).isEmpty

end Store

end OntoWrap
