import OntoWrap.Ontology.Cardinality
import OntoWrap.Rdf.Vocabulary

/-!
# Value types

The range of a property gives the type of one value and the cardinality says whether an accessor
deals with one value or a collection.  What no known datatype describes is a reference to a
resource.
-/
namespace OntoWrap

open Vocabulary

/-- Type of one value. -/
inductive ScalarType where
  | string | int16 | uint16 | int32 | uint32 | int64 | uint64 | double | bool | date | time
  | dateTime | resource
  deriving DecidableEq, Repr

namespace ScalarType

/-- The datatypes with a value type of their own. -/
def byRange : List (String × ScalarType) := [
  (xsdInteger, int64), (xsdNegativeInteger, int64), (xsdNonPositiveInteger, int64),
  (xsdLong, int64), (xsdNonNegativeInteger, uint64), (xsdPositiveInteger, uint64),
  (xsdUnsignedLong, uint64), (xsdInt, int32), (xsdUnsignedInt, uint32), (xsdShort, int16),
  (xsdUnsignedShort, uint16), (xsdFloat, double), (xsdDouble, double), (xsdDecimal, double),
  (xsdBoolean, bool), (xsdDate, date), (xsdTime, time), (xsdDateTime, dateTime),
  (xsdString, string), (rdfsLiteral, string)]

/-- The value type of a range. -/
def ofRange (range : String) : ScalarType := (byRange.lookup range).getD resource

end ScalarType

/-- Type of an accessor. -/
inductive ValueType where
  /-- One value. -/
  | scalar (element : ScalarType)
  /-- Values of a type other than text. -/
  | list (element : ScalarType)
  /-- Texts. -/
  | stringList
  deriving DecidableEq, Repr

namespace ValueType

/-- The accessor type of a range and a cardinality. -/
def ofProperty (range : String) (cardinality : Cardinality) : ValueType :=
  let element := ScalarType.ofRange range
  if cardinality.isSingle then scalar element
  else if element = .string then stringList
  else list element

/-- Type of one value. -/
def element : ValueType → ScalarType
  | scalar t => t
  | list t => t
  | stringList => .string

/-- Whether the accessor deals with several values. -/
def isCollection : ValueType → Bool
  | scalar _ => false
  | _ => true

end ValueType

end OntoWrap
