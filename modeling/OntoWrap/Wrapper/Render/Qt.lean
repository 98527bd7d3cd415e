import OntoWrap.Text.Source
import OntoWrap.Wrapper.Renderer

/-!
# Qt headers

Every class becomes a class derived from its parents by virtual inheritance.  The constructor of a
most derived class names all its ancestors, and only the constructors of classes that hang directly
off the root tag the resource.  `Constructor` holds what a constructor passes to whom; the text is
written from it.
-/
namespace OntoWrap.Qt

open Text.Source (block indent)

/-! ## 1. Names -/

/-- Name of a class file, without the extension. -/
def fileStem (c : ClassRef) : String := Text.Case.lowerText c.name

/-- Path of the file of a class. -/
def relativePath (c : ClassRef) : String := Path.join c.group (fileStem c ++ ".h")

/-- Name of the namespace of a class. -/
def namespaceName (c : ClassRef) : String := Text.Case.upperText c.group

/-- A class with its namespace. -/
def qualified (c : ClassRef) : String := namespaceName c ++ "::" ++ c.name

/-- The macro that keeps a header from being read twice. -/
def guardMacro (c : ClassRef) : String :=
  "_" ++ namespaceName c ++ "_" ++ Text.Case.upperText c.name ++ "_H_"

/-- Name of the type of one value. -/
def scalarName : ScalarType → String
  | .string => "QString"
  | .int16 => "qint16"
  | .uint16 => "quint16"
  | .int32 => "qint32"
  | .uint32 => "quint32"
  | .int64 => "qint64"
  | .uint64 => "quint64"
  | .double => "double"
  | .bool => "bool"
  | .date => "QDate"
  | .time => "QTime"
  | .dateTime => "QDateTime"
  | .resource => "QUrl"

/-- Name of the type of an accessor. -/
def valueTypeName : ValueType → String
  | .scalar t => scalarName t
  | .list t => "QList<" ++ scalarName t ++ ">"
  | .stringList => "QStringList"

/-! ## 2. Literals and comments -/

/-- Characters of a string literal: a backslash before each backslash and each quote. -/
def escapeChars (cs : List Char) : List Char :=
  cs.flatMap fun c => if c = '\\' ∨ c = '"' then ['\\', c] else [c]

/-- The expression that makes a URL of an IRI. -/
def urlExpr (iri : String) : String :=
  "QUrl::fromEncoded(\"" ++ String.ofList (escapeChars iri.toList) ++ "\", QUrl::StrictMode)"

/-- Puts a space into each end of a comment, so that it ends none. -/
def openComment : List Char → List Char
  | '*' :: '/' :: rest => '*' :: ' ' :: '/' :: openComment rest
  | c :: rest => c :: openComment rest
  | [] => []

/-- A block comment filled with the words of a text. -/
def blockComment (text : String) : List String :=
  let lines := Text.wrap Text.Source.commentWidth (String.ofList (openComment text.toList))
  ["/**"] ++ (if lines.isEmpty then [" *"] else lines.map (" * " ++ ·)) ++ [" */"]

/-! ## 3. Constructors -/

/-- What a constructor tags its resource with. -/
inductive TypeArgument where
  /-- The IRI of the class itself. -/
  | own
  /-- The IRI that is passed to the constructor. -/
  | passed
  deriving DecidableEq, Repr

/-- One of the four constructors of a class. -/
structure Constructor where
  /-- Whether a resource is copied. -/
  copies : Bool
  /-- The type that the new object gets. -/
  type : TypeArgument
  /-- The ancestors that it names; the type is passed to each. -/
  ancestors : List ClassRef
  /-- Whether it tags the resource itself. -/
  tags : Bool
  deriving DecidableEq, Repr

/-- A constructor of a class: one that hangs directly off the root tags the resource, any other
names all its ancestors. -/
def constructor (unit : ClassUnit) (copies : Bool) (type : TypeArgument) : Constructor where
  copies := copies
  type := type
  ancestors := if unit.isRootLevel then [] else unit.ancestors
  tags := unit.isRootLevel

/-- The type argument as it is written. -/
def TypeArgument.text (unit : ClassUnit) : TypeArgument → String
  | own => urlExpr unit.self.iri
  | passed => "type"

/-- The parameters of a constructor. -/
def Constructor.parameters (k : Constructor) : String :=
  ", ".intercalate
    ((if k.copies then ["const SimpleResource& res"] else [])
      ++ if k.type = .passed then ["const QUrl& type"] else [])

/-- What a constructor passes to the ancestors that it names. -/
def Constructor.arguments (unit : ClassUnit) (k : Constructor) : String :=
  (if k.copies then "res, " else "") ++ k.type.text unit

/-- The initializers of a constructor: the copied resource and all named ancestors. -/
def Constructor.initializers (unit : ClassUnit) (k : Constructor) : String :=
  let ancestors := ", ".intercalate
    (k.ancestors.map fun a => qualified a ++ "(" ++ k.arguments unit ++ ")")
  if k.tags then (if k.copies then "SimpleResource(res)" else "")
  else (if k.copies then "SimpleResource(res), " else "") ++ ancestors

/-- The lines of a constructor. -/
def Constructor.lines (unit : ClassUnit) (k : Constructor) : List String :=
  let head := unit.self.name ++ "(" ++ k.parameters ++ ")"
  let body := if k.tags then ["addType(" ++ k.type.text unit ++ ");"] else []
  if k.tags && !k.copies then block head body
  else head :: block ("  : " ++ k.initializers unit) body

/-- Assignment of a resource. -/
def assignment (unit : ClassUnit) : List String :=
  block (unit.self.name ++ "& operator=(const SimpleResource& res)")
    ["SimpleResource::operator=(res);",
      "addType(" ++ TypeArgument.text unit .own ++ ");",
      "return *this;"]

/-! ## 4. Accessors -/

/-- Comment above an accessor. -/
def accessorComment (action : String) (a : Accessor) : List String :=
  blockComment (action ++ " property " ++ a.property ++ ". " ++ a.comment.getD "")

/-- The getter of a property. -/
def getter (a : Accessor) : List String :=
  let key := urlExpr a.property
  let type := valueTypeName a.valueType
  let element := scalarName a.valueType.element
  block (type ++ " " ++ a.names.getter ++ "() const") <|
    [type ++ " value;"]
    ++ (if a.valueType.isCollection then
        ["foreach(const QVariant& v, property(" ++ key ++ "))",
          "    value << v.value<" ++ element ++ ">();"]
      else
        ["if(contains(" ++ key ++ "))",
          "    value = property(" ++ key ++ ").first().value<" ++ element ++ ">();"])
    ++ ["return value;"]

/-- The setter of a property. -/
def setter (a : Accessor) : List String :=
  let key := urlExpr a.property
  let element := scalarName a.valueType.element
  block ("void " ++ a.names.setter ++ "(const " ++ valueTypeName a.valueType ++ "& value)") <|
    ["QVariantList values;"]
    ++ (if a.valueType.isCollection then
        ["foreach(const " ++ element ++ "& v, value)", "    values << v;"]
      else ["values << value;"])
    ++ ["setProperty(" ++ key ++ ", values);"]

/-- The adder of a property. -/
def adder (a : Accessor) : List String :=
  block ("void " ++ a.names.adder ++ "(const " ++ scalarName a.valueType.element ++ "& value)")
    ["addProperty(" ++ urlExpr a.property ++ ", value);"]

/-- Getter, setter and adder of a property. -/
def accessorMethods (a : Accessor) : List String :=
  [""] ++ accessorComment "Get" a ++ getter a
  ++ [""] ++ accessorComment "Set" a ++ setter a
  ++ [""] ++ accessorComment "Add value to" a ++ adder a

/-! ## 5. Files -/

/-- The headers that every class file includes. -/
def libraryHeaders : List String :=
  ["QVariant", "QStringList", "QUrl", "QDate", "QTime", "QDateTime"]

/-- The classes that a class is derived from. -/
def bases (outer : String) (unit : ClassUnit) : List String :=
  if unit.isRootLevel then [outer ++ "::SimpleResource"] else unit.parents.map qualified

/-- Includes of the headers of the parents, and an empty line after them. -/
def parentIncludes (unit : ClassUnit) : List String :=
  if unit.isRootLevel then []
  else unit.parents.map (fun p => "#include \"" ++ p.group ++ "/" ++ fileStem p ++ ".h\"") ++ [""]

/-- The members of a class. -/
def members (unit : ClassUnit) : List String :=
  ["public:"]
  ++ indent ((constructor unit false .own).lines unit ++ [""]
    ++ (constructor unit true .own).lines unit ++ [""]
    ++ assignment unit
    ++ unit.accessors.flatMap accessorMethods ++ [""])
  ++ ["protected:"]
  ++ indent ((constructor unit false .passed).lines unit
    ++ (constructor unit true .passed).lines unit)

/-- The lines of a class file; `outer` encloses the namespaces of all ontologies. -/
def classLines (outer : String) (unit : ClassUnit) : List String :=
  let guardName := guardMacro unit.self
  ["#ifndef " ++ guardName, "#define " ++ guardName, ""]
  ++ libraryHeaders.map (fun header => "#include <QtCore/" ++ header ++ ">")
  ++ ["", "#include <" ++ Text.Case.lowerText outer ++ "/simpleresource.h>", ""]
  ++ parentIncludes unit
  ++ ["namespace " ++ outer ++ " \x7b", "namespace " ++ namespaceName unit.self ++ " \x7b"]
  ++ blockComment (unit.comment.getD unit.label)
  ++ ["class " ++ unit.self.name ++ " : "
      ++ ", ".intercalate ((bases outer unit).map ("public virtual " ++ ·)),
    "\x7b"]
  ++ members unit
  ++ ["\x7d;", "\x7d", "\x7d", "", "#endif"]

/-- The renderer for an outer namespace. -/
def renderer (outer : String) : Renderer where
  extension := "h"
  fileStem := fileStem
  relativePath := relativePath
  methodName := id
  renderClass := fun unit => Text.Source.finish (classLines outer unit)
  renderIndexes := fun _ => []

end OntoWrap.Qt
