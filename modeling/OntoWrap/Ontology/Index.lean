import OntoWrap.Ontology.Abbreviation
import OntoWrap.Ontology.Cardinality

/-!
# Classes and properties of an ontology

The index lists what a store declares: the classes with their declared parents, and the properties
with a range.  Both lists are in IRI order.  The implicit root is never a class, a parent is always
an indexed class other than the class itself, and a property without a range is left out.
-/
namespace OntoWrap

open Vocabulary

/-! ## 1. Entries -/

/-- A declared class. -/
structure ClassInfo where
  iri : String
  label : String
  comment : Option String
  /-- Abbreviation of the declaring ontology. -/
  abbreviation : String
  /-- Declared classes directly above this one, in IRI order. -/
  parents : List String
  deriving DecidableEq, Repr

/-- Whether a class hangs directly off the root. -/
def ClassInfo.isRootLevel (c : ClassInfo) : Bool := c.parents.isEmpty

/-- A declared property. -/
structure PropertyInfo where
  iri : String
  /-- IRIs of the classes that the property belongs to, in order. -/
  domains : List String
  /-- IRI of a datatype or a class. -/
  range : String
  cardinality : Cardinality
  comment : Option String
  /-- Abbreviation of the declaring ontology. -/
  abbreviation : String
  deriving DecidableEq, Repr

/-- The classes and properties of a store, each in IRI order. -/
structure Index where
  classes : List ClassInfo
  properties : List PropertyInfo
  deriving DecidableEq, Repr

/-- What a store says about a property that is worth telling the user. -/
inductive IndexNote where
  /-- The property has no range and is left out. -/
  | noRange (property : String)
  /-- The property has several ranges, of which the first counts. -/
  | severalRanges (property range : String)
  deriving DecidableEq, Repr

namespace Index

/-! ## 2. Reading the store -/

/-- IRIs with one of the given types, each once and in order. -/
def instancesOf (store : Store) (types : List String) : List String :=
  ascending (types.flatMap fun type => store.subjects rdfType (.iri type))

/-- IRIs of the declared classes. -/
def classIris (store : Store) : List String :=
  (instancesOf store classTypes).filter fun iri => !isRootType iri

/-- IRIs that a subject has under a predicate, in order. -/
def iriObjects (store : Store) (subject predicate : String) : List String :=
  (store.objects subject predicate).filterMap Term.asIri?

/-- The first literal that a subject has under a predicate, as it is written. -/
def firstLiteral? (store : Store) (subject predicate : String) : Option String :=
  (store.objects subject predicate).findSome? Term.lexical?

/-- The declared bound of a property, else its declared maximum, else one if the property is
functional, else none. -/
def cardinalityOf (store : Store) (property : String) : Cardinality :=
  let written (predicate : String) : Option String :=
    ((store.objects property predicate).head?).bind Term.text?
  match written nrlCardinality <|> written nrlMaxCardinality with
  | some lexical => .ofLexical lexical
  | none =>
    if store.contains property rdfType (.iri owlFunctionalProperty) then .one else .unbounded

/-! ## 3. Entries of the index -/

/-- The declared parents of a class among the declared classes. -/
def parentsOf (store : Store) (classes : List String) (iri : String) : List String :=
  (iriObjects store iri rdfsSubClassOf).filter fun parent =>
    parent != iri && classes.contains parent

/-- The entry of a class. -/
def classInfo (store : Store) (classes : List String) (iri : String) : ClassInfo where
  iri := iri
  label := (firstLiteral? store iri rdfsLabel).getD (Iri.localName iri)
  comment := firstLiteral? store iri rdfsComment
  abbreviation := Abbreviation.ofEntity store iri
  parents := parentsOf store classes iri

/-- The entry of a property, if it has a range. -/
def propertyInfo? (store : Store) (iri : String) : Option PropertyInfo :=
  (iriObjects store iri rdfsRange).head?.map fun range =>
    { iri := iri
      domains := iriObjects store iri rdfsDomain
      range := range
      cardinality := cardinalityOf store iri
      comment := firstLiteral? store iri rdfsComment
      abbreviation := Abbreviation.ofEntity store iri }

/-- The index of a store. -/
def ofStore (store : Store) : Index :=
  let iris := classIris store
  { classes := iris.map (classInfo store iris)
    properties := (instancesOf store propertyTypes).filterMap (propertyInfo? store) }

/-- What there is to tell about the properties of a store, in IRI order. -/
def notes (store : Store) : List IndexNote :=
  (instancesOf store propertyTypes).filterMap fun iri =>
    match iriObjects store iri rdfsRange with
    | [] => some (.noRange iri)
    | [_] => none
    | range :: _ => some (.severalRanges iri range)

/-! ## 4. Look-ups -/

/-- The class with an IRI. -/
def class? (index : Index) (iri : String) : Option ClassInfo :=
  index.classes.find? (·.iri == iri)

/-- The property with an IRI. -/
def property? (index : Index) (iri : String) : Option PropertyInfo :=
  index.properties.find? (·.iri == iri)

/-- Properties with a domain, in IRI order. -/
def propertiesWithDomain (index : Index) (iri : String) : List PropertyInfo :=
  index.properties.filter (·.domains.contains iri)

/-- Properties of the root, under each of its names; one with both names comes twice. -/
def universalProperties (index : Index) : List PropertyInfo :=
  rootTypes.flatMap index.propertiesWithDomain

/-- Properties that get accessors on a class, in IRI order: its own, and those of the root if the
class hangs directly off the root.  Properties of other parents are not inherited.  This is the
list that `PropertyCollector` merges from the table of domains. -/
def effectiveProperties (index : Index) (c : ClassInfo) : List PropertyInfo :=
  index.properties.filter fun p =>
    p.domains.contains c.iri || (c.isRootLevel && p.domains.any isRootType)

theorem iri_of_class? {index : Index} {iri : String} {c : ClassInfo}
    (h : index.class? iri = some c) : c.iri = iri := by
  simpa using List.find?_some h

theorem mem_of_class? {index : Index} {iri : String} {c : ClassInfo}
    (h : index.class? iri = some c) : c ∈ index.classes := List.mem_of_find?_eq_some h

end Index

end OntoWrap
