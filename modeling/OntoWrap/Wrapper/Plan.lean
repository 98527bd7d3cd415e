import OntoWrap.Ontology.Hierarchy
import OntoWrap.Text.Wrapping
import OntoWrap.Wrapper.Disambiguation
import OntoWrap.Wrapper.ValueType

/-!
# Plans of wrapper classes

A plan holds all that is needed to write the wrapper of one class: its names, its parents and
ancestors as they are referred to, and an accessor for each of its properties.
-/
namespace OntoWrap

/-! ## 1. What a plan holds -/

/-- A class as generated code refers to it. -/
structure ClassRef where
  iri : String
  /-- Identifier of the type. -/
  name : String
  /-- Identifier of the namespace, which names the folder of the output. -/
  group : String
  /-- Whether the class hangs directly off the root. -/
  rootLevel : Bool
  deriving DecidableEq, Repr

/-- How generated code refers to a class. -/
def ClassRef.ofClass (c : ClassInfo) : ClassRef where
  iri := c.iri
  name := Naming.identifierOf c.iri
  group := Naming.groupOf c.abbreviation
  rootLevel := c.isRootLevel

/-- Getter, setter and adder of a property. -/
structure Accessor where
  property : String
  names : Naming.AccessorNames
  valueType : ValueType
  cardinality : Cardinality
  comment : Option String
  deriving DecidableEq, Repr

/-- The accessor of a property with given names. -/
def Accessor.ofProperty (named : Naming.NamedProperty) : Accessor where
  property := named.property.iri
  names := named.names
  valueType := .ofProperty named.property.range named.property.cardinality
  cardinality := named.property.cardinality
  comment := named.property.comment.map Text.normalize

/-- Plan of the wrapper of one class. -/
structure ClassUnit where
  self : ClassRef
  label : String
  comment : Option String
  /-- Direct parents in IRI order; none if the class hangs directly off the root. -/
  parents : List ClassRef
  /-- All classes above, each after the classes above itself. -/
  ancestors : List ClassRef
  /-- One accessor for each property, in IRI order. -/
  accessors : List Accessor
  deriving DecidableEq, Repr

/-- Whether a plan is for a class that hangs directly off the root. -/
def ClassUnit.isRootLevel (unit : ClassUnit) : Bool := unit.parents.isEmpty

/-! ## 2. Making a plan -/

/-- Why a class has no plan, or a set of plans no output. -/
inductive PlanFault where
  /-- The class lies below a cycle. -/
  | hierarchy (fault : HierarchyFault)
  /-- Two of its properties cannot be told apart. -/
  | collision (collision : Naming.Collision)
  /-- Two outputs have one path. -/
  | duplicateOutput (path : String) (origins : List String)
  deriving DecidableEq, Repr

/-- The plan of a class; `declare` respells accessors as they will be declared. -/
def Index.plan (index : Index) (declare : String → String) (c : ClassInfo) :
    Except PlanFault ClassUnit := do
  let ancestors ← (index.ancestors c).mapError .hierarchy
  let named ← (Naming.disambiguate c.iri declare (index.effectiveProperties c)).mapError .collision
  return {
    self := .ofClass c
    label := c.label
    comment := c.comment.map Text.normalize
    parents := (index.directParents c).map .ofClass
    ancestors := ancestors.map .ofClass
    accessors := named.map .ofProperty }

/-- The message of a fault. -/
def PlanFault.message : PlanFault → String
  | hierarchy (.cycle start path) =>
    "cyclic rdfs:subClassOf hierarchy at " ++ start ++ ": " ++ " -> ".intercalate path
  | hierarchy (.unknownClass iri) => "unknown class " ++ iri
  | collision c =>
    "class " ++ c.onClass ++ ": accessor `" ++ c.identifier
      ++ "` is ambiguous even with namespace prefixes (" ++ ", ".intercalate c.properties ++ ")"
  | duplicateOutput path origins =>
    "classes " ++ ", ".intercalate origins ++ " all map to output file " ++ path

end OntoWrap
