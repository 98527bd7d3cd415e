/-!
# Vocabulary

The IRIs that carry meaning for wrapper classes: what declares a class or a property, what relates
them, and the datatypes with a value type of their own.
-/
namespace OntoWrap.Vocabulary

/-! ## 1. RDF and RDF Schema -/

def rdfType : String := "http://www.w3.org/1999/02/22-rdf-syntax-ns#type"
def rdfProperty : String := "http://www.w3.org/1999/02/22-rdf-syntax-ns#Property"
def rdfFirst : String := "http://www.w3.org/1999/02/22-rdf-syntax-ns#first"
def rdfRest : String := "http://www.w3.org/1999/02/22-rdf-syntax-ns#rest"
def rdfNil : String := "http://www.w3.org/1999/02/22-rdf-syntax-ns#nil"
def rdfLangString : String := "http://www.w3.org/1999/02/22-rdf-syntax-ns#langString"

def rdfsClass : String := "http://www.w3.org/2000/01/rdf-schema#Class"
def rdfsResource : String := "http://www.w3.org/2000/01/rdf-schema#Resource"
def rdfsLiteral : String := "http://www.w3.org/2000/01/rdf-schema#Literal"
def rdfsSubClassOf : String := "http://www.w3.org/2000/01/rdf-schema#subClassOf"
def rdfsDomain : String := "http://www.w3.org/2000/01/rdf-schema#domain"
def rdfsRange : String := "http://www.w3.org/2000/01/rdf-schema#range"
def rdfsLabel : String := "http://www.w3.org/2000/01/rdf-schema#label"
def rdfsComment : String := "http://www.w3.org/2000/01/rdf-schema#comment"

/-! ## 2. OWL and the desktop ontologies -/

def owlClass : String := "http://www.w3.org/2002/07/owl#Class"
def owlThing : String := "http://www.w3.org/2002/07/owl#Thing"
def owlObjectProperty : String := "http://www.w3.org/2002/07/owl#ObjectProperty"
def owlDatatypeProperty : String := "http://www.w3.org/2002/07/owl#DatatypeProperty"
def owlFunctionalProperty : String := "http://www.w3.org/2002/07/owl#FunctionalProperty"

def nrlCardinality : String :=
  "http://www.semanticdesktop.org/ontologies/2007/08/15/nrl#cardinality"
def nrlMaxCardinality : String :=
  "http://www.semanticdesktop.org/ontologies/2007/08/15/nrl#maxCardinality"
def naoAbbreviation : String :=
  "http://www.semanticdesktop.org/ontologies/2007/08/15/nao#hasDefaultNamespaceAbbreviation"

/-! ## 3. Datatypes -/

def xsdString : String := "http://www.w3.org/2001/XMLSchema#string"
def xsdInteger : String := "http://www.w3.org/2001/XMLSchema#integer"
def xsdNegativeInteger : String := "http://www.w3.org/2001/XMLSchema#negativeInteger"
def xsdNonPositiveInteger : String := "http://www.w3.org/2001/XMLSchema#nonPositiveInteger"
def xsdNonNegativeInteger : String := "http://www.w3.org/2001/XMLSchema#nonNegativeInteger"
def xsdPositiveInteger : String := "http://www.w3.org/2001/XMLSchema#positiveInteger"
def xsdLong : String := "http://www.w3.org/2001/XMLSchema#long"
def xsdUnsignedLong : String := "http://www.w3.org/2001/XMLSchema#unsignedLong"
def xsdInt : String := "http://www.w3.org/2001/XMLSchema#int"
def xsdUnsignedInt : String := "http://www.w3.org/2001/XMLSchema#unsignedInt"
def xsdShort : String := "http://www.w3.org/2001/XMLSchema#short"
def xsdUnsignedShort : String := "http://www.w3.org/2001/XMLSchema#unsignedShort"
def xsdFloat : String := "http://www.w3.org/2001/XMLSchema#float"
def xsdDouble : String := "http://www.w3.org/2001/XMLSchema#double"
def xsdDecimal : String := "http://www.w3.org/2001/XMLSchema#decimal"
def xsdBoolean : String := "http://www.w3.org/2001/XMLSchema#boolean"
def xsdDate : String := "http://www.w3.org/2001/XMLSchema#date"
def xsdTime : String := "http://www.w3.org/2001/XMLSchema#time"
def xsdDateTime : String := "http://www.w3.org/2001/XMLSchema#dateTime"

/-! ## 4. Groups -/

/-- The implicit root of every class hierarchy, under both of its names. -/
def rootTypes : List String := [rdfsResource, owlThing]

/-- Types whose instances are classes. -/
def classTypes : List String := [rdfsClass, owlClass]

/-- Types whose instances are properties. -/
def propertyTypes : List String := [rdfProperty, owlObjectProperty, owlDatatypeProperty]

/-- Whether an IRI names the implicit root. -/
def isRootType (iri : String) : Bool := rootTypes.contains iri

end OntoWrap.Vocabulary
