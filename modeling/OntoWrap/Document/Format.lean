import OntoWrap.Files.Path

/-!
# Formats of ontology documents

Four serializations are read.  A file's extension, in upper or lower case, tells which one it is
written in.
-/
namespace OntoWrap

/-- Serialization of a document. -/
inductive Format where
  | turtle
  | nTriples
  | trig
  | nQuads
  deriving DecidableEq, Repr

namespace Format

/-- Name of a format. -/
def name : Format → String
  | turtle => "Turtle"
  | nTriples => "N-Triples"
  | trig => "TriG"
  | nQuads => "N-Quads"

/-- The extensions of each format, in lower case. -/
def byExtension : List (String × Format) := [
  ("ttl", turtle), ("turtle", turtle), ("nt", nTriples), ("ntriples", nTriples),
  ("trig", trig), ("nq", nQuads), ("nquads", nQuads)]

/-- The format of a file. -/
def ofPath? (path : String) : Option Format := do
  byExtension.lookup (← Path.extension? path).toLower

/-- The format with a name. -/
def ofName? (name : String) : Option Format :=
  [turtle, nTriples, trig, nQuads].find? (·.name == name)

end Format

end OntoWrap
