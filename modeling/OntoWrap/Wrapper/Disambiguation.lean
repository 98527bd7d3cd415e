import OntoWrap.Ontology.Index
import OntoWrap.Wrapper.Naming

/-!
# Names without collisions

The properties of one class get names that differ.  Properties with a common identifier are all
prefixed with their namespace; then those whose accessors still meet are prefixed as well.  What
meets after that is an error.

Accessors are compared as they are declared in the generated code: `declare` respells them.  Nothing
depends on the order of the properties but the order in which an error lists them.
-/
namespace OntoWrap.Naming

/-! ## 1. Names of one property -/

/-- The identifier that a property has by itself. -/
def plainIdentifier (p : PropertyInfo) : String := identifierOf p.iri

/-- The identifier of a property after its namespace. -/
def prefixedIdentifier (p : PropertyInfo) : String :=
  groupOf p.abbreviation ++ upperFirst (plainIdentifier p)

/-- The names of a property, prefixed or not. -/
def namesOf (prefixed : Bool) (p : PropertyInfo) : AccessorNames :=
  .ofIdentifier (if prefixed then prefixedIdentifier p else plainIdentifier p) p.cardinality

/-! ## 2. Meeting names -/

/-- Whether a name occurs more than once. -/
def isShared (taken : List String) (name : String) : Bool := 1 < taken.count name

/-- The labels that occur more than once, in order, each with all that it labels. -/
def sharedLabels {α : Type} (labelled : List (String × α)) : List (String × List α) :=
  (ascending (labelled.map (·.1))).filterMap fun label =>
    let members := (labelled.filter (·.1 == label)).map (·.2)
    if 1 < members.length then some (label, members) else none

/-- A property with its names. -/
structure NamedProperty where
  property : PropertyInfo
  names : AccessorNames
  deriving DecidableEq, Repr

/-- Properties that cannot be told apart. -/
structure Collision where
  /-- IRI of the class. -/
  onClass : String
  /-- The identifier or accessor that they share. -/
  identifier : String
  /-- IRIs of the properties, one for each time that the name occurs. -/
  properties : List String
  deriving DecidableEq, Repr

/-- Accessors as declared, each with the IRI of its property. -/
def declaredAccessors (declare : String → String) (named : List NamedProperty) :
    List (String × String) :=
  named.flatMap fun n => n.names.accessors.map fun accessor => (declare accessor, n.property.iri)

/-- The first name that properties share: the least identifier, else the least accessor. -/
def firstShared? (declare : String → String) (named : List NamedProperty) :
    Option (String × List String) :=
  (sharedLabels (named.map fun n => (n.names.identifier, n.property.iri))
    ++ sharedLabels (declaredAccessors declare named)).head?

/-! ## 3. Two rounds of prefixing -/

/-- Names after the first round: a shared identifier prefixes all that share it. -/
def firstRound (properties : List PropertyInfo) : List NamedProperty :=
  let taken := properties.map plainIdentifier
  properties.map fun p => ⟨p, namesOf (isShared taken (plainIdentifier p)) p⟩

/-- Names after the second round: a shared accessor prefixes all that share it. -/
def secondRound (declare : String → String) (properties : List PropertyInfo) :
    List NamedProperty :=
  let identifiers := properties.map plainIdentifier
  let accessors := (declaredAccessors declare (firstRound properties)).map (·.1)
  properties.map fun p =>
    let early := isShared identifiers (plainIdentifier p)
    let late := (namesOf early p).accessors.any fun a => isShared accessors (declare a)
    ⟨p, namesOf (early || late) p⟩

/-- Names for the properties of a class, in the order of the properties. -/
def disambiguate (onClass : String) (declare : String → String) (properties : List PropertyInfo) :
    Except Collision (List NamedProperty) :=
  let named := secondRound declare properties
  match firstShared? declare named with
  | some (identifier, owners) => .error ⟨onClass, identifier, owners⟩
  | none => .ok named

end OntoWrap.Naming
