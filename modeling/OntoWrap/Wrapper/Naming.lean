import OntoWrap.Ontology.Cardinality
import OntoWrap.Rdf.Iri
import OntoWrap.Text.Case

/-!
# Names in generated code

Identifiers come from the local names of IRIs, and accessor names from identifiers: a leading `has`
goes, a collection gets a plural, and a word says what the accessor does.  `snakeCase` respells a
name in lower case with underscores and steps around the reserved words.
-/
namespace OntoWrap.Naming

/-! ## 1. Identifiers -/

/-- Characters of identifiers. -/
def isIdentifierChar (c : Char) : Bool := c.isAlphanum || c == '_'

/-- Puts an underscore before characters that are no identifier because they begin with a digit or
are none at all. -/
def guardStart : List Char → List Char
  | [] => ['_']
  | c :: rest => if c.isDigit then '_' :: c :: rest else c :: rest

/-- Turns characters into an identifier: an underscore for each that does not belong in one. -/
def sanitizeChars (cs : List Char) : List Char :=
  guardStart (cs.map fun c => if isIdentifierChar c then c else '_')

/-- Turns a text into an identifier. -/
def sanitize (s : String) : String := String.ofList (sanitizeChars s.toList)

/-- The identifier of a class or property. -/
def identifierOf (iri : String) : String := sanitize (Iri.localName iri)

/-- The identifier of a namespace abbreviation. -/
def groupOf (abbreviation : String) : String := sanitize (Text.Case.lowerText abbreviation)

/-! ## 2. Respelling -/

/-- Applies a case to the first character. -/
def mapFirst (f : Char → List Char) : List Char → List Char
  | [] => []
  | c :: rest => f c ++ rest

/-- The text with its first character in upper case. -/
def upperFirst (s : String) : String := String.ofList (mapFirst Text.Case.upper s.toList)

/-- The text with its first character in lower case. -/
def lowerFirst (s : String) : String := String.ofList (mapFirst Text.Case.lower s.toList)

/-- Words reserved in Rust that no identifier may be. -/
def reservedWords : List String := [
  "as", "async", "await", "box", "break", "const", "continue", "crate", "dyn", "else", "enum",
  "extern", "false", "fn", "for", "if", "impl", "in", "let", "loop", "match", "mod", "move", "mut",
  "pub", "ref", "return", "self", "Self", "static", "struct", "super", "trait", "true", "type",
  "unsafe", "use", "where", "while", "yield"]

/-- Puts an underscore after a reserved word. -/
def escapeReserved (name : String) : String :=
  if reservedWords.contains name then name ++ "_" else name

/-- Lower case with an underscore before each capital that follows a small letter or a digit, so
that a run of capitals stays one word.  `before` is the character already read. -/
def snakeChars (before : Option Char) : List Char → List Char
  | [] => []
  | c :: rest =>
    (if Text.Case.isUpper c then
      (if before.any fun b => Text.Case.isLower b || b.isDigit then ['_'] else [])
        ++ Text.Case.lower c
    else [c]) ++ snakeChars (some c) rest

/-- Respells a name with capitals as one with underscores. -/
def snakeCase (name : String) : String :=
  escapeReserved (String.ofList (snakeChars none name.toList))

/-! ## 3. Accessor names -/

/-- The name without a leading `has` before a capital. -/
def withoutHas (identifier : String) : String :=
  match identifier.toList with
  | 'h' :: 'a' :: 's' :: c :: rest =>
    if c.isUpper then lowerFirst (String.ofList (c :: rest)) else identifier
  | _ => identifier

/-- The plural of a name. -/
def plural (name : String) : String :=
  if name.toList.getLast? = some 's' then name ++ "es" else name ++ "s"

/-- How a property is called where it has a given cardinality. -/
def displayName (identifier : String) (cardinality : Cardinality) : String :=
  if cardinality.isSingle then withoutHas identifier else plural (withoutHas identifier)

/-- Identifier and accessors of a property on a class. -/
structure AccessorNames where
  identifier : String
  getter : String
  setter : String
  adder : String
  deriving DecidableEq, Repr

/-- The names that an identifier gives to a property. -/
def AccessorNames.ofIdentifier (identifier : String) (cardinality : Cardinality) : AccessorNames :=
  let whole := upperFirst (displayName identifier cardinality)
  { identifier := identifier
    getter := "get" ++ whole
    setter := "set" ++ whole
    adder := "add" ++ upperFirst (displayName identifier .one) }

/-- The three accessors. -/
def AccessorNames.accessors (names : AccessorNames) : List String :=
  [names.getter, names.setter, names.adder]

end OntoWrap.Naming
