import OntoWrap.Document.Format
import OntoWrap.Document.Lines
import OntoWrap.Document.Turtle

/-!
# Ontology documents

`Document.read` reads a text in one of the four formats.  A text that breaks the rules of its format
anywhere states nothing at all.
-/
namespace OntoWrap.Document

/-- What a text states, if it is a document of the format. -/
def read (format : Format) (text : String) : Option Contents :=
  match format with
  | .turtle => Turtle.read false text.toList
  | .trig => Turtle.read true text.toList
  | .nTriples => Lines.read false text.toList
  | .nQuads => Lines.read true text.toList

end OntoWrap.Document
