import OntoWrap.Ontology.Index
import OntoWrap.Table

/-!
# Properties by their domains

One pass over the declared properties of a store fills two tables: the entries of those that have a
range, and the IRIs of these by domain.  A look-up by domain then reads the IRIs and finds the entry
of each, and does not go through all properties.

The properties of a class are collected through the tables: its own are put into a map by their
IRIs, and on top of them, if nothing but the root is above the class, those of the root, which are
looked up once for all classes.
-/
namespace OntoWrap

/-! ## 1. The tables -/

/-- The entries of some properties, and their IRIs by domain. -/
structure PropertyTables where
  properties : List PropertyInfo := []
  byDomain : Table String String := []

namespace PropertyTables

/-- Adds the entry of a property. -/
def register (tables : PropertyTables) (p : PropertyInfo) : PropertyTables where
  properties := tables.properties ++ [p]
  byDomain := tables.byDomain.addAll (p.domains.map fun domain => (domain, p.iri))

/-- Takes a declared property into the tables; one without a range is passed over. -/
def enter (store : Store) (tables : PropertyTables) (iri : String) : PropertyTables :=
  match Index.propertyInfo? store iri with
  | none => tables
  | some p => tables.register p

/-- The tables of a store. -/
def ofStore (store : Store) : PropertyTables :=
  (Index.instancesOf store Vocabulary.propertyTypes).foldl (enter store) {}

/-- The property with an IRI. -/
def property? (tables : PropertyTables) (iri : String) : Option PropertyInfo :=
  tables.properties.find? (·.iri == iri)

/-- Properties with a domain, by way of the table. -/
def withDomain (tables : PropertyTables) (domain : String) : List PropertyInfo :=
  (tables.byDomain.valuesOf domain).filterMap tables.property?

end PropertyTables

/-! ## 2. The properties of a class -/

/-- Properties under their IRIs, one for each and in the order of the IRIs. -/
abbrev PropertyMap := List PropertyInfo

namespace PropertyMap

/-- Puts a property under its IRI, in place of what is there. -/
def put (p : PropertyInfo) : PropertyMap → PropertyMap
  | [] => [p]
  | q :: rest =>
    match compare p.iri q.iri with
    | .lt => p :: q :: rest
    | .eq => p :: rest
    | .gt => q :: put p rest

/-- Puts properties under their IRIs, one after the other. -/
def putAll (map : PropertyMap) (properties : List PropertyInfo) : PropertyMap :=
  properties.foldl (fun map p => map.put p) map

end PropertyMap

/-- The tables of a store with the properties of the root, which are looked up once. -/
structure PropertyCollector where
  tables : PropertyTables
  universal : List PropertyInfo

namespace PropertyCollector

/-- The collector of a store. -/
def ofStore (store : Store) : PropertyCollector :=
  let tables := PropertyTables.ofStore store
  { tables := tables, universal := Vocabulary.rootTypes.flatMap tables.withDomain }

/-- The properties that get accessors on a class. -/
def propertiesFor (collector : PropertyCollector) (c : ClassInfo) : PropertyMap :=
  let own := PropertyMap.putAll [] (collector.tables.withDomain c.iri)
  if c.isRootLevel then own.putAll collector.universal else own

end PropertyCollector

end OntoWrap
