/-!
# The parts of an IRI

Ontologies write an IRI as a namespace and a local name, and the last section of the namespace is by
custom the ontology's short name.  The delimiters are `#`, `/` and `:`.  Two of the parts are found
by looking for a delimiter from the end, the third one by cutting the IRI at all of them:

* `localName` is what follows the last delimiter;
* `namespaceOf` is what ends in the last `#` or `/`;
* `sectionName` is the last section but one.
-/
namespace OntoWrap.Iri

/-! ## 1. Delimiters -/

/-- Delimiters of sections. -/
def isDelimiter (c : Char) : Bool := c == '#' || c == '/' || c == ':'

/-- Delimiters that end a namespace. -/
def endsNamespace (c : Char) : Bool := c == '#' || c == '/'

/-! ## 2. Parts, as characters -/

/-- The characters after the last delimiter; all of them if there is none. -/
def localNameChars (cs : List Char) : List Char :=
  (cs.reverse.takeWhile fun c => !isDelimiter c).reverse

/-- The characters up to the last delimiter that ends a namespace; all of them if there is none. -/
def namespaceChars (cs : List Char) : List Char :=
  match cs.reverse.dropWhile fun c => !endsNamespace c with
  | [] => cs
  | upTo => upTo.reverse

/-- The last section but one, among the sections between delimiters; empty if there is no
delimiter. -/
def sectionChars (cs : List Char) : List Char :=
  (cs.splitOnP isDelimiter).dropLast.getLast?.getD []

/-! ## 3. Parts, as texts -/

/-- Local name of an IRI. -/
def localName (iri : String) : String := String.ofList (localNameChars iri.toList)

/-- Namespace of an IRI, with the delimiter that ends it. -/
def namespaceOf (iri : String) : String := String.ofList (namespaceChars iri.toList)

/-- Section of an IRI before its local name, which by custom names the ontology. -/
def sectionName (iri : String) : String := String.ofList (sectionChars iri.toList)

/-- Drops the delimiters at the end of a namespace. -/
def trimNamespace (iri : String) : String :=
  String.ofList (iri.toList.reverse.dropWhile endsNamespace).reverse

end OntoWrap.Iri
