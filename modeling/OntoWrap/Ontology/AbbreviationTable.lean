import OntoWrap.Ontology.Abbreviation
import OntoWrap.Rdf.Pattern
import OntoWrap.Table

/-!
# Abbreviations in tables

A query for the declarations and one pass over all statements fill two tables: the abbreviation of
each graph or namespace that has one, and the named graphs about each subject.  The abbreviation of
a class or property is then looked up in the tables, and the statements are not gone through for
each of them.
-/
namespace OntoWrap

open Vocabulary

/-- Where abbreviations come from. -/
structure AbbreviationTables where
  /-- Graphs and namespaces with their abbreviations, each once. -/
  declared : List (String × String) := []
  /-- The named graphs that hold statements about a subject. -/
  graphs : Table String String := []

namespace AbbreviationTables

/-! ## 1. Filling the tables -/

/-- The statements that declare abbreviations: `g` is the graph or namespace, `ns` its
abbreviation. -/
def declarations : Pattern := ⟨.variable "g", .bound (.iri naoAbbreviation), .variable "ns"⟩

/-- What an answer declares: nothing, if a node without a name is called something, or something is
called by such a node. -/
def declaration? (answer : Bindings) : Option (String × String) := do
  let iri ← (answer.lookup "g").bind Term.asIri?
  let text ← (answer.lookup "ns").bind Term.text?
  return (iri, Text.Case.lowerText text)

/-- Takes a declaration into the table, unless the IRI has an abbreviation already. -/
def declare (declared : List (String × String)) (answer : Bindings) : List (String × String) :=
  match declaration? answer with
  | none => declared
  | some (iri, abbreviation) =>
    match declared.lookup iri with
    | some _ => declared
    | none => declared ++ [(iri, abbreviation)]

/-- The subject and the graph of a statement, if both have names. -/
def placement? (st : Statement) : Option (String × String) := do
  return (← st.subject.asIri?, ← st.graph.bind Term.asIri?)

/-- The tables of a store. -/
def ofStore (store : Store) : AbbreviationTables where
  declared := (store.query declarations).foldl declare []
  graphs := Table.addAll [] (store.toList.filterMap placement?)

/-! ## 2. Looking abbreviations up -/

/-- The abbreviation declared for a graph or a namespace. -/
def declared? (tables : AbbreviationTables) (iri : String) : Option String :=
  tables.declared.lookup iri

/-- The named graphs about a subject, each once and in order. -/
def graphsOf (tables : AbbreviationTables) (subject : String) : List String :=
  ascending (tables.graphs.valuesOf subject)

/-- The abbreviation of a class or property: that of the first graph about it that has one, else
that of its namespace, with or without the delimiters at its end, else the section of its IRI before
the local name. -/
def ofEntity (tables : AbbreviationTables) (iri : String) : String :=
  let namespaceIri := Iri.namespaceOf iri
  ((tables.graphsOf iri).findSome? tables.declared?
    <|> tables.declared? namespaceIri
    <|> tables.declared? (Iri.trimNamespace namespaceIri)).getD
      (Text.Case.lowerText (Iri.sectionName iri))

end AbbreviationTables

end OntoWrap
