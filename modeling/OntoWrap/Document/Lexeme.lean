import OntoWrap.Document.IriReference
import OntoWrap.Document.LanguageTag
import OntoWrap.Rdf.Vocabulary
import OntoWrap.Text.Lexer

/-!
# Lexemes of ontology documents

The smallest parts of a document: names, IRIs between angle brackets, quoted texts, language tags
and numbers.  Each is read by a lexer from the front of the characters.
-/
namespace OntoWrap.Document

open Text (Lexer afterText?)

/-! ## 1. Characters -/

/-- Characters that separate lexemes. -/
def isSpace (c : Char) : Bool := c == ' ' || c == '\t' || c == '\n' || c == '\r'

/-- Characters that end a line. -/
def isLineEnd (c : Char) : Bool := c == '\n' || c == '\r'

/-- Letters of names beyond ASCII. -/
def wideLetterRanges : List (Nat × Nat) := [
  (0xC0, 0xD6), (0xD8, 0xF6), (0xF8, 0x2FF), (0x370, 0x37D), (0x37F, 0x1FFF), (0x200C, 0x200D),
  (0x2070, 0x218F), (0x2C00, 0x2FEF), (0x3001, 0xD7FF), (0xF900, 0xFDCF), (0xFDF0, 0xFFFD),
  (0x10000, 0xEFFFF)]

/-- Marks beyond ASCII that may stand inside a name. -/
def wideMarkRanges : List (Nat × Nat) := [(0xB7, 0xB7), (0x300, 0x36F), (0x203F, 0x2040)]

/-- Whether some range holds a character. -/
def isIn (ranges : List (Nat × Nat)) (c : Char) : Bool :=
  ranges.any fun (first, last) => first ≤ c.toNat && c.toNat ≤ last

/-- Characters beyond ASCII. -/
def isWide (c : Char) : Bool := 0x80 ≤ c.toNat

/-- Characters that a prefix may begin with. -/
def isNameLetter (c : Char) : Bool := c.isAlpha || isIn wideLetterRanges c

/-- ASCII characters that may stand inside a name. -/
def isNarrowNameChar (c : Char) : Bool := c.isAlphanum || c == '_' || c == '-'

/-- Characters that may stand inside a name. -/
def isNameChar (c : Char) : Bool :=
  isNarrowNameChar c || isIn wideLetterRanges c || isIn wideMarkRanges c

/-- What may go on a name, as far as one character tells. -/
def goesOn (c : Char) : Bool := isNarrowNameChar c || isWide c

/-! ## 2. Spaces and fixed texts -/

/-- The characters after spaces and comments. -/
def afterSpace (cs : List Char) : List Char := Text.afterSpaceAndComments isSpace isLineEnd cs

/-- A fixed text. -/
def fixed (text : String) : Lexer Unit := fun cs =>
  (afterText? text.toList cs).map fun rest => ((), rest)

/-- What may stand right behind a keyword. -/
def endsKeyword (c : Char) : Bool := isSpace c || c == '<'

/-- A keyword, given in upper case and read in any, unless something else goes on behind it. -/
def keyword (word : String) : Lexer Unit := fun cs =>
  let rest := cs.drop word.length
  if (cs.take word.length).map Char.toUpper = word.toList ∧ rest.head?.all endsKeyword then
    some ((), rest)
  else none

/-! ## 3. Names -/

/-- The characters of a name and what follows it.  A dot belongs to the name only before a character
that `dotBefore` admits, so that the dot at the end of a sentence does not. -/
def nameRun (inside dotBefore : Char → Bool) : List Char → List Char × List Char
  | [] => ([], [])
  | c :: rest =>
    if inside c || (c == '.' && rest.head?.any dotBefore) then
      let (name, after) := nameRun inside dotBefore rest
      (c :: name, after)
    else ([], c :: rest)

/-- A prefix with its colon; the empty prefix is one. -/
def prefixName : Lexer String
  | [] => none
  | c :: rest =>
    if c = ':' then some ("", rest)
    else if isNameLetter c then
      match nameRun isNameChar goesOn rest with
      | (name, ':' :: after) => some (String.ofList (c :: name), after)
      | _ => none
    else none

/-- Characters that stand for themselves after a backslash in a local name. -/
def isLocalEscape (c : Char) : Bool := "_~.-!$&'()*+,;=/?#@%".toList.contains c

/-- What may go on a local name behind dots, as far as one character tells. -/
def goesOnLocally (c : Char) : Bool := goesOn c || c == ':' || c == '%' || c == '\\'

/-- Whether a local name goes on behind the dots in front, if there are any. -/
def goesOnBehindDots (cs : List Char) : Bool := (cs.dropWhile (· == '.')).head?.any goesOnLocally

/-- The rest of a local name: a percent sign needs two hexadecimal digits and stays, a backslash
goes and leaves the character behind it. -/
def localRun : Lexer (List Char)
  | '%' :: a :: b :: rest =>
    if Text.isHexDigit a && Text.isHexDigit b then
      (localRun rest).map fun (name, after) => ('%' :: a :: b :: name, after)
    else none
  | '\\' :: c :: rest =>
    if isLocalEscape c then (localRun rest).map fun (name, after) => (c :: name, after) else none
  | c :: rest =>
    if c = '%' ∨ c = '\\' then none
    else if isNameChar c || c == ':' || (c == '.' && goesOnBehindDots rest) then
      (localRun rest).map fun (name, after) => (c :: name, after)
    else some ([], c :: rest)
  | [] => some ([], [])

/-- A local name, which may be empty. -/
def localName : Lexer String
  | [] => some ("", [])
  | c :: rest =>
    if isNameLetter c || c.isDigit || c == '_' || c == ':' || c == '%' || c == '\\' then
      (localRun (c :: rest)).map fun (name, after) => (String.ofList name, after)
    else some ("", c :: rest)

/-- The label of a blank node, after an underscore and a colon. -/
def blankLabel : Lexer String
  | '_' :: ':' :: c :: rest =>
    if isNameLetter c || c.isDigit || c == '_' then
      let (label, after) := nameRun isNameChar goesOn rest
      some (String.ofList (c :: label), after)
    else none
  | _ => none

/-! ## 4. Quoted texts and IRIs -/

/-- The characters up to the first that closes, without it; one after a backslash does not. -/
def upTo (closes : Char → Bool) : Lexer (List Char)
  | '\\' :: c :: rest => (upTo closes rest).map fun (body, after) => ('\\' :: c :: body, after)
  | c :: rest =>
    if closes c then some ([], c :: rest)
    else (upTo closes rest).map fun (body, after) => (c :: body, after)
  | [] => none

/-- The characters up to three quotes in a row, and what follows these. -/
def upToThree (quote : Char) : Lexer (List Char)
  | '\\' :: c :: rest =>
    (upToThree quote rest).map fun (body, after) => ('\\' :: c :: body, after)
  | c :: rest =>
    if [quote, quote, quote].isPrefixOf (c :: rest) then some ([], rest.drop 2)
    else (upToThree quote rest).map fun (body, after) => (c :: body, after)
  | [] => none

/-- Letters after a backslash in a quoted text. -/
def textLetter : Char → Option Char
  | 't' => some '\t'
  | 'b' => some '\x08'
  | 'n' => some '\n'
  | 'r' => some '\r'
  | 'f' => some '\x0c'
  | '"' => some '"'
  | '\'' => some '\''
  | '\\' => some '\\'
  | _ => none

/-- A text between single quotes of one kind: it stays on one line. -/
def shortText (quote : Char) (cs : List Char) : Option (String × List Char) := do
  let (body, rest) ← upTo (fun c => c == quote || isLineEnd c) cs
  let after ← afterText? [quote] rest
  return (String.ofList (← Text.unescape textLetter body), after)

/-- A text between triple quotes of one kind. -/
def longText (quote : Char) (cs : List Char) : Option (String × List Char) := do
  let (body, after) ← upToThree quote cs
  return (String.ofList (← Text.unescape textLetter body), after)

/-- A quoted text of any kind. -/
def quotedText : Lexer String
  | [] => none
  | quote :: rest =>
    if quote = '"' ∨ quote = '\'' then
      match afterText? [quote, quote] rest with
      | some inside => longText quote inside
      | none => shortText quote rest
    else none

/-- What stands between angle brackets, without escapes. -/
def bracketed (cs : List Char) : Option (List Char × List Char) := do
  let inside ← afterText? ['<'] cs
  let (body, rest) ← upTo (· == '>') inside
  return (← Text.unescape (fun _ => none) body, rest.drop 1)

/-- An IRI between angle brackets, under a base if there is one. -/
def iriReference (base : Option Reference) (cs : List Char) :
    Option (Reference × List Char) := do
  let (written, rest) ← bracketed cs
  return (← Reference.read? base written, rest)

/-- A language tag after an at sign. -/
def languageTag (cs : List Char) : Option (String × List Char) := do
  let rest ← afterText? ['@'] cs
  let inside (c : Char) : Bool := c.isAlphanum || c == '-'
  let tag := rest.takeWhile inside
  if LanguageTag.isWellFormed tag then some (String.ofList tag, rest.dropWhile inside) else none

/-! ## 5. Numbers and truth values -/

/-- Digits, as many as there are. -/
def digits (cs : List Char) : List Char × List Char :=
  (cs.takeWhile Char.isDigit, cs.dropWhile Char.isDigit)

/-- A sign, if there is one. -/
def sign : List Char → List Char × List Char
  | c :: rest => if c = '+' ∨ c = '-' then ([c], rest) else ([], c :: rest)
  | [] => ([], [])

/-- Whether a character marks an exponent. -/
def isExponentMark (c : Char) : Bool := c == 'e' || c == 'E'

/-- A dot and the digits behind it; a dot that is followed by neither a digit nor an exponent does
not belong to the number. -/
def fraction : List Char → Option (List Char) × List Char
  | '.' :: rest =>
    if rest.head?.any fun c => c.isDigit || isExponentMark c then
      (some (digits rest).1, (digits rest).2)
    else (none, '.' :: rest)
  | cs => (none, cs)

/-- An exponent: a mark, a sign and one or more digits. -/
def exponent : Lexer (List Char)
  | [] => none
  | mark :: rest =>
    let (sign, rest) := sign rest
    let (digits, rest) := digits rest
    if isExponentMark mark && digits ≠ [] then some (mark :: sign ++ digits, rest) else none

/-- A number as it is written, with the IRI of its datatype: a double has an exponent, a decimal has
only a fraction, and an integer neither. -/
def number (cs : List Char) : Option ((String × String) × List Char) := do
  let (sign, rest) := sign cs
  let (whole, rest) := digits rest
  let (part, rest) := fraction rest
  let written := sign ++ whole ++ (part.map ('.' :: ·)).getD []
  if whole = [] ∧ part.getD [] = [] then none
  else if rest.head?.any isExponentMark then
    let (exponent, rest) ← exponent rest
    return ((String.ofList (written ++ exponent), Vocabulary.xsdDouble), rest)
  else if part = some [] then none
  else
    let datatype := if part.isSome then Vocabulary.xsdDecimal else Vocabulary.xsdInteger
    return ((String.ofList written, datatype), rest)

/-- The word `true` or `false`, unless a name goes on behind it. -/
def truthValue (cs : List Char) : Option (String × List Char) :=
  ["true", "false"].findSome? fun word => do
    let rest ← afterText? word.toList cs
    if rest.head?.any fun c => goesOn c || c == ':' then none else some (word, rest)

end OntoWrap.Document
