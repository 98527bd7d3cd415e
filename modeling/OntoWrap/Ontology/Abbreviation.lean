import OntoWrap.Rdf.Iri
import OntoWrap.Rdf.Store
import OntoWrap.Rdf.Vocabulary
import OntoWrap.Text.Case

/-!
# Namespace abbreviations

Every class and property lies in an ontology with a short lower-case name.  An ontology may declare
the name for one of its graphs or for its namespace; otherwise the IRI itself gives it.
-/
namespace OntoWrap.Abbreviation

open Vocabulary

/-- The abbreviation declared for a graph or a namespace: the first declared object that is no blank
node, in lower case. -/
def declared? (store : Store) (iri : String) : Option String :=
  ((store.objects iri naoAbbreviation).findSome? Term.text?).map Text.Case.lowerText

/-- The named graphs that hold a statement about a subject, each once and in order. -/
def graphsOf (store : Store) (subject : String) : List String :=
  ascending ((store.matching (some (.iri subject)) none none).filterMap
    fun st => st.graph.bind Term.asIri?)

/-- The abbreviation of a class or property: that of the first graph about it that has one, else
that of its namespace, with or without the delimiters at its end, else the section of its IRI before
the local name. -/
def ofEntity (store : Store) (iri : String) : String :=
  let namespaceIri := Iri.namespaceOf iri
  ((graphsOf store iri).findSome? (declared? store)
    <|> declared? store namespaceIri
    <|> declared? store (Iri.trimNamespace namespaceIri)).getD
      (Text.Case.lowerText (Iri.sectionName iri))

end OntoWrap.Abbreviation
