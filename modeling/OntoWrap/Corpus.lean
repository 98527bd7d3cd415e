import OntoWrap.Document
import OntoWrap.Files.Tree
import OntoWrap.Rdf.Store
import OntoWrap.Rdf.Vocabulary

/-!
# Gathering documents

A corpus is what a number of documents state together.  A document that cannot be read adds nothing.
When all are there, `Corpus.store` gives the store of their statements, in which each declared
property that has no domain gets the root as its domain.
-/
namespace OntoWrap

open Vocabulary

/-! ## 1. Reading one document -/

/-- Why a document cannot be read. -/
inductive LoadFault where
  | unreadable (path : String) (cause : IoFault)
  | unknownFormat (path : String)
  | malformed (source : String) (format : Format)
  deriving DecidableEq, Repr

/-- The message of a fault, up to where its cause is explained. -/
def LoadFault.message : LoadFault → String
  | unreadable path _ => "cannot read ontology " ++ path ++ ": "
  | unknownFormat path =>
    "unsupported ontology format for " ++ path ++ " (expected .ttl, .nt, .trig or .nq)"
  | malformed source format => "failed to parse " ++ format.name ++ " source " ++ source ++ ": "

/-- A text that is to be read as a document. -/
structure Source where
  name : String
  format : Format
  text : String
  deriving DecidableEq, Repr

/-- What a source states; `read` reads documents. -/
def Source.contents (read : Format → String → Option Document.Contents) (source : Source) :
    Except LoadFault Document.Contents :=
  match read source.format source.text with
  | some contents => .ok contents
  | none => .error (.malformed source.name source.format)

/-- The source in a file. -/
def Source.ofFile (tree : FileTree) (path : String) : Except LoadFault Source :=
  match Format.ofPath? path with
  | none => .error (.unknownFormat path)
  | some format => do
    let text ← (tree.readText path).mapError (.unreadable path)
    return ⟨path, format, text⟩

/-- What a file states. -/
def contentsOfFile (tree : FileTree) (path : String) : Except LoadFault Document.Contents := do
  (← Source.ofFile tree path).contents Document.read

/-! ## 2. Corpora -/

/-- What some documents state together. -/
structure Corpus where
  statements : List Statement := []
  /-- Number of the documents. -/
  sources : Nat := 0
  deriving DecidableEq, Repr

namespace Corpus

/-- Adds what a document states. -/
def add (corpus : Corpus) (contents : Document.Contents) : Corpus where
  statements := corpus.statements ++ contents.statements
  sources := corpus.sources + 1

/-- Adds what a source states, if it can be read. -/
def addSource (read : Format → String → Option Document.Contents) (corpus : Corpus)
    (source : Source) : Corpus :=
  match source.contents read with
  | .ok contents => corpus.add contents
  | .error _ => corpus

/-- Adds a source and answers with the number of its statements, or with why it cannot be read. -/
def tryAdd (read : Format → String → Option Document.Contents) (corpus : Corpus) (source : Source) :
    Except LoadFault Nat × Corpus :=
  match source.contents read with
  | .ok contents => (.ok contents.statements.length, corpus.add contents)
  | .error fault => (.error fault, corpus)

/-- Adds sources one after the other, with an answer to each. -/
def tryAddAll (read : Format → String → Option Document.Contents) (corpus : Corpus) :
    List Source → List (Except LoadFault Nat) × Corpus
  | [] => ([], corpus)
  | source :: rest =>
    let (answer, next) := corpus.tryAdd read source
    let (answers, last) := next.tryAddAll read rest
    (answer :: answers, last)

/-- The corpus of some documents, all of which have to be readable. -/
def ofDocuments (documents : List (Except LoadFault Document.Contents)) :
    Except LoadFault Corpus :=
  documents.foldlM (fun corpus contents => return corpus.add (← contents)) {}

/-! ## 3. The store -/

/-- The IRI that a statement declares as a property. -/
def declaredProperty? (st : Statement) : Option String :=
  match st.subject, st.predicate, st.object with
  | .iri property, .iri predicate, .iri type =>
    if predicate = rdfType ∧ propertyTypes.contains type then some property else none
  | _, _, _ => none

/-- The IRI to which a statement gives a domain. -/
def propertyWithDomain? (st : Statement) : Option String :=
  match st.subject, st.predicate with
  | .iri property, .iri predicate => if predicate = rdfsDomain then some property else none
  | _, _ => none

/-- The declared properties without a domain, in order. -/
def domainless (statements : List Statement) : List String :=
  let withDomain := ascending (statements.filterMap propertyWithDomain?)
  (ascending (statements.filterMap declaredProperty?)).filter fun iri => !withDomain.contains iri

/-- The statement that gives a property the root as its domain. -/
def rootDomain (property : String) : Statement :=
  ⟨.iri property, .iri rdfsDomain, .iri rdfsResource, none⟩

/-- The statements of the documents with those that give domains to properties without one. -/
def store (corpus : Corpus) : Store :=
  .ofList (corpus.statements ++ (domainless corpus.statements).map rootDomain)

end Corpus

end OntoWrap
