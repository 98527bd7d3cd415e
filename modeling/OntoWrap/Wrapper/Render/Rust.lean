import OntoWrap.Text.Source
import OntoWrap.Wrapper.Renderer

/-!
# Rust wrappers

Every class becomes a struct around one `SimpleResource` of the runtime crate.  Shared ancestors are
modelled by composition: making a wrapper calls `init_type` of every ancestor in turn, and only the
`init_type` of a class that hangs directly off the root adds the type.  `typeCalls` and `addsType`
say which calls a class makes and whether its own `init_type` adds anything; the text is written
from them.
-/
namespace OntoWrap.Rust

open Naming (escapeReserved snakeCase)
open Text (quote)
open Text.Source (block comment indent)

/-! ## 1. Names -/

/-- Name of the struct of a class. -/
def typeName (c : ClassRef) : String := escapeReserved c.name

/-- Name of the module of a namespace. -/
def moduleName (group : String) : String := escapeReserved group

/-- Name of the module of a class, which is its file. -/
def fileStem (c : ClassRef) : String := escapeReserved (Text.Case.lowerText c.name)

/-- Path of the file of a class. -/
def relativePath (c : ClassRef) : String := Path.join (moduleName c.group) (fileStem c ++ ".rs")

/-- Where a class is found from the module of another. -/
inductive ClassPath where
  /-- In the same namespace. -/
  | sibling (type : String)
  /-- In the module of another namespace. -/
  | elsewhere (module type : String)
  deriving DecidableEq, Repr

/-- The path as it is written. -/
def ClassPath.text : ClassPath → String
  | sibling type => "super::" ++ type
  | elsewhere module type => "super::super::" ++ module ++ "::" ++ type

/-- Where a class is found from the module of another. -/
def classPath (origin target : ClassRef) : ClassPath :=
  if origin.group = target.group then .sibling (typeName target)
  else .elsewhere (moduleName target.group) (typeName target)

/-- Name of the type of one value. -/
def scalarName : ScalarType → String
  | .string => "String"
  | .int16 => "i16"
  | .uint16 => "u16"
  | .int32 => "i32"
  | .uint32 => "u32"
  | .int64 => "i64"
  | .uint64 => "u64"
  | .double => "f64"
  | .bool => "bool"
  | .date => "rt::Date"
  | .time => "rt::Time"
  | .dateTime => "rt::DateTime"
  | .resource => "rt::Url"

/-- Name of the type of an accessor. -/
def valueTypeName : ValueType → String
  | .scalar t => scalarName t
  | .list t => "Vec<" ++ scalarName t ++ ">"
  | .stringList => "rt::StringList"

/-! ## 2. Which types an instance gets -/

/-- A call that passes the type of an instance on. -/
inductive TypeCall where
  /-- To the class itself. -/
  | own
  /-- To an ancestor. -/
  | ancestor (path : ClassPath)
  deriving DecidableEq, Repr

/-- The calls that making a wrapper performs, in order. -/
def typeCalls (unit : ClassUnit) : List TypeCall :=
  if unit.isRootLevel then [.own]
  else unit.ancestors.map fun a => .ancestor (classPath unit.self a)

/-- Whether the class adds the type that is passed to it. -/
def addsType (unit : ClassUnit) : Bool := unit.isRootLevel

/-- A call as it is written. -/
def TypeCall.line : TypeCall → String
  | own => "Self::init_type(&mut resource, type_uri);"
  | ancestor path => path.text ++ "::init_type(&mut resource, type_uri);"

/-- The definition of `init_type`. -/
def initType (unit : ClassUnit) : List String :=
  "#[doc(hidden)]" ::
    if addsType unit then
      block "pub fn init_type(resource: &mut rt::SimpleResource, type_uri: &str)"
        ["resource.add_type(type_uri);"]
    else
      ["pub fn init_type(_resource: &mut rt::SimpleResource, _type_uri: &str) \x7b\x7d"]

/-! ## 3. The body of a class -/

/-- Constructors and conversions to the wrapped resource. -/
def constructors (unit : ClassUnit) : List String :=
  let name := typeName unit.self
  ["/// IRI of the `" ++ name ++ "` class.",
    "pub const TYPE_URI: &'static str = " ++ quote unit.self.iri ++ ";",
    "",
    "/// Creates an empty resource typed as `" ++ name ++ "`."]
  ++ block "pub fn new() -> Self" ["Self::with_type(Self::TYPE_URI)"]
  ++ ["", "/// Wraps `res`, adding the `" ++ name ++ "` type."]
  ++ block "pub fn from_resource(res: rt::SimpleResource) -> Self"
    ["Self::from_resource_with_type(res, Self::TYPE_URI)"]
  ++ ["", "/// Replaces the wrapped resource with `res`, adding the `" ++ name ++ "` type."]
  ++ block "pub fn assign(&mut self, res: rt::SimpleResource) -> &mut Self"
    ["*self = Self::from_resource(res);", "self"]
  ++ ["",
    "/// Creates an empty resource initialized for `type_uri` instead of this",
    "/// class's own type. Used when composing a subclass."]
  ++ block "pub fn with_type(type_uri: &str) -> Self"
    ["Self::from_resource_with_type(rt::SimpleResource::new(), type_uri)"]
  ++ ["",
    "/// Wraps `res`, initializing it for `type_uri` instead of this class's",
    "/// own type."]
  ++ block "pub fn from_resource_with_type(res: rt::SimpleResource, type_uri: &str) -> Self"
    (["let mut resource = res;"] ++ (typeCalls unit).map TypeCall.line
      ++ ["Self \x7b resource \x7d"])
  ++ [""] ++ initType unit
  ++ ["", "#[allow(dead_code)]"]
  ++ block "pub(crate) fn wrap(resource: rt::SimpleResource) -> Self" ["Self \x7b resource \x7d"]
  ++ ["", "/// The wrapped resource."]
  ++ block "pub fn resource(&self) -> &rt::SimpleResource" ["&self.resource"]
  ++ ["", "/// Unwraps the resource."]
  ++ block "pub fn into_resource(self) -> rt::SimpleResource" ["self.resource"]

/-- Comment above an accessor. -/
def accessorComment (action : String) (a : Accessor) : List String :=
  comment "/// " (action ++ " property <" ++ a.property ++ ">. " ++ a.comment.getD "")

/-- Getter, setter and adder of a property. -/
def accessorMethods (a : Accessor) : List String :=
  let key := quote a.property
  let type := valueTypeName a.valueType
  let (result, read, stored) :=
    if a.valueType.isCollection then (type, "values", "value")
    else ("Option<" ++ type ++ ">", "value", "[value]")
  [""] ++ accessorComment "Get" a
  ++ block ("pub fn " ++ snakeCase a.names.getter ++ "(&self) -> " ++ result)
    ["self.resource." ++ read ++ "(" ++ key ++ ")"]
  ++ [""] ++ accessorComment "Set" a
  ++ block ("pub fn " ++ snakeCase a.names.setter ++ "(&mut self, value: " ++ type ++ ")")
    ["self.resource.set_values(" ++ key ++ ", " ++ stored ++ ");"]
  ++ [""] ++ accessorComment "Add value to" a
  ++ block ("pub fn " ++ snakeCase a.names.adder ++ "(&mut self, value: "
      ++ scalarName a.valueType.element ++ ")")
    ["self.resource.add_value(" ++ key ++ ", value);"]

/-- Conversion of a class into something that is made from its resource. -/
def conversion (name target result : String) : List String :=
  block ("impl From<" ++ name ++ "> for " ++ target)
    (block ("fn from(value: " ++ name ++ ") -> Self") [result])

/-- Trait implementations of a class. -/
def conversions (unit : ClassUnit) : List String :=
  let name := typeName unit.self
  block ("impl Default for " ++ name) (block "fn default() -> Self" ["Self::new()"])
  ++ [""]
  ++ block ("impl AsRef<rt::SimpleResource> for " ++ name)
    (block "fn as_ref(&self) -> &rt::SimpleResource" ["&self.resource"])
  ++ (if unit.isRootLevel then
      [""] ++ conversion name "rt::SimpleResource" "value.resource"
    else [])
  ++ unit.parents.flatMap fun parent =>
    let path := (classPath unit.self parent).text
    [""] ++ conversion name path (path ++ "::wrap(value.resource)")

/-! ## 4. Files -/

/-- The lines that every file begins with, after its title. -/
def generatedNote : List String := ["//!", "//! Generated by resgen. Do not edit.", ""]

/-- Comment above the struct of a class: its comment, else its label. -/
def structComment (unit : ClassUnit) : List String :=
  (match unit.comment with
    | some text => if text.isEmpty then ["/// " ++ unit.label ++ "."] else comment "/// " text
    | none => ["/// " ++ unit.label ++ "."])
  ++ if unit.isRootLevel then []
    else
      let paths := unit.parents.map fun p => "[`" ++ (classPath unit.self p).text ++ "`]"
      ["///", "/// Converts into " ++ ", ".intercalate paths ++ "."]

/-- The lines of a class file; `runtime` is the path of the runtime crate. -/
def classLines (runtime : String) (unit : ClassUnit) : List String :=
  let name := typeName unit.self
  ["//! `" ++ unit.label ++ "`: <" ++ unit.self.iri ++ ">."] ++ generatedNote
  ++ ["use " ++ runtime ++ " as rt;", ""]
  ++ structComment unit
  ++ ["#[derive(Debug, Clone)]"]
  ++ block ("pub struct " ++ name) ["resource: rt::SimpleResource,"]
  ++ [""]
  ++ block ("impl " ++ name) (constructors unit ++ unit.accessors.flatMap accessorMethods)
  ++ [""]
  ++ conversions unit

/-- The modules of some class files, each with the struct in it, in order. -/
def moduleEntries (classes : List ClassRef) : List (String × String) :=
  (classes.map fun c => (fileStem c, typeName c)).mergeSort fun a b =>
    (compareLex (compareOn Prod.fst) (compareOn Prod.snd) a b).isLE

/-- The file that lists the classes of a namespace. -/
def namespaceIndex (module : String) (classes : List ClassRef) : OutputUnit :=
  let entries := moduleEntries classes
  { path := Path.join module "mod.rs"
    origin := "`" ++ module ++ "` module index"
    contents := Text.Source.finish <|
      ["//! `" ++ module ++ "` classes."] ++ generatedNote
      ++ entries.map (fun (stem, _) => "pub mod " ++ stem ++ ";")
      ++ [""]
      ++ entries.map fun (stem, type) => "pub use " ++ stem ++ "::" ++ type ++ ";" }

/-- The file that lists the namespaces. -/
def rootIndex (modules : List String) : OutputUnit where
  path := "mod.rs"
  origin := "module index"
  contents := Text.Source.finish <|
    ["//! Resource classes generated from ontologies."] ++ generatedNote
    ++ modules.map fun module => "pub mod " ++ module ++ ";"

/-- The index files: one for each module of a namespace, in order, and one for all of them. -/
def indexes (units : List ClassUnit) : List OutputUnit :=
  let modules := ascending (units.map fun u => moduleName u.self.group)
  modules.map (fun module =>
    namespaceIndex module
      ((units.filter fun u => moduleName u.self.group == module).map (·.self)))
  ++ [rootIndex modules]

/-- The renderer for a runtime crate. -/
def renderer (runtime : String) : Renderer where
  extension := "rs"
  fileStem := fileStem
  relativePath := relativePath
  methodName := snakeCase
  renderClass := fun unit => Text.Source.finish (classLines runtime unit)
  renderIndexes := indexes

end OntoWrap.Rust
