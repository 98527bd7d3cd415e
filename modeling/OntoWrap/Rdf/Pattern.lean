import OntoWrap.Rdf.Store

/-!
# Triple patterns

A pattern is a statement without a graph in which variables may stand for terms.  Its answers are
the ways to give terms to the variables so that the store holds the statement in some graph; each
comes once, in the order of the first statement that gives it.
-/
namespace OntoWrap

/-! ## 1. Patterns and bindings -/

/-- One place of a pattern. -/
inductive Slot where
  /-- Only this term. -/
  | bound (term : Term)
  /-- Any term, remembered under a name. -/
  | variable (name : String)
  deriving DecidableEq, Repr

/-- The term that a slot asks for. -/
def Slot.term? : Slot → Option Term
  | .bound term => some term
  | .variable _ => none

/-- A statement with variables. -/
structure Pattern where
  subject : Slot
  predicate : Slot
  object : Slot
  deriving DecidableEq, Repr

/-- Terms given to variables, each variable once, by first occurrence. -/
abbrev Bindings := List (String × Term)

/-! ## 2. Matching -/

/-- Binds a slot to a term: a variable that has a term already must have this one. -/
def Bindings.extend (bindings : Bindings) (slot : Slot) (term : Term) : Option Bindings :=
  match slot with
  | .bound _ => some bindings
  | .variable name =>
    match bindings.lookup name with
    | none => some (bindings ++ [(name, term)])
    | some known => if known = term then some bindings else none

/-- The bindings under which a pattern is a given statement, if its bound slots fit. -/
def Pattern.bind? (pattern : Pattern) (st : Statement) : Option Bindings := do
  let bindings ← Bindings.extend [] pattern.subject st.subject
  let bindings ← bindings.extend pattern.predicate st.predicate
  bindings.extend pattern.object st.object

/-- The first occurrences of the members of a list. -/
def firsts {α : Type} [DecidableEq α] : List α → List α
  | [] => []
  | a :: rest => a :: (firsts rest).filter (· ≠ a)

/-- The answers of a pattern. -/
def Store.query (store : Store) (pattern : Pattern) : List Bindings :=
  firsts <|
    (store.matching pattern.subject.term? pattern.predicate.term? pattern.object.term?).filterMap
      pattern.bind?

end OntoWrap
