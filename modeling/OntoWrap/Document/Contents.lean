import OntoWrap.Rdf.Term

/-!
# Contents of a document

What a document states: its statements, and how many of its sentences are about a quoted statement.
Those have no meaning for an ontology; they are read, counted and otherwise dropped.
-/
namespace OntoWrap.Document

/-- What stands as subject or object of a sentence. -/
inductive Node where
  | term (term : Term)
  /-- A statement between double angle brackets. -/
  | quoted
  deriving DecidableEq, Repr

/-- The term of a node, if it is one. -/
def Node.term? : Node → Option Term
  | term t => some t
  | quoted => none

/-- Statements of a document and the number of its dropped sentences. -/
structure Contents where
  statements : List Statement := []
  dropped : Nat := 0
  deriving DecidableEq, Repr

namespace Contents

/-- Takes a sentence in: as a statement in front of the others, if its nodes are terms. -/
def add (contents : Contents) (subject : Node) (predicate : Term) (object : Node)
    (graph : Option Term) : Contents :=
  match subject.term?, object.term? with
  | some s, some o =>
    { contents with statements := ⟨s, predicate, o, graph⟩ :: contents.statements }
  | _, _ => { contents with dropped := contents.dropped + 1 }

/-- The contents with the statements in the opposite order. -/
def reverse (contents : Contents) : Contents :=
  { contents with statements := contents.statements.reverse }

end Contents

/-- How deep brackets of all kinds may be nested. -/
def maxDepth : Nat := 128

end OntoWrap.Document
