import OntoWrap.Document.Contents
import OntoWrap.Document.Lexeme

/-!
# Documents with one statement per line

N-Triples and N-Quads write a statement on a line, with every IRI in full and a dot at the end.
Spaces and tabs separate, and a comment may follow.  In N-Quads the name of a graph may stand before
the dot.
-/
namespace OntoWrap.Document.Lines

open Text (Lexer afterText? afterInlineSpace)

/-! ## 1. Parts of a line -/

/-- An IRI. -/
def iri : Lexer Term := fun cs =>
  (iriReference none cs).map fun (r, rest) => (.iri (String.ofList r.toChars), rest)

/-- A blank node. -/
def blank : Lexer Term := fun cs =>
  (blankLabel cs).map fun (label, rest) => (.blank label, rest)

/-- An IRI or a blank node. -/
def resource : Lexer Term := fun cs => iri cs <|> blank cs

/-- A literal: a text between double quotes, then a language tag, a datatype or nothing. -/
def literal : Lexer Term := fun cs => do
  let (lexical, rest) ← shortText '"' (← afterText? ['"'] cs)
  match afterInlineSpace rest with
  | '@' :: tag =>
    let (_, rest) ← languageTag ('@' :: tag)
    return (.literal lexical (some Vocabulary.rdfLangString), rest)
  | '^' :: marks =>
    let (datatype, rest) ← iri (afterInlineSpace (← afterText? ['^'] marks))
    return (.literal lexical datatype.asIri?, rest)
  | rest => return (.literal lexical (some Vocabulary.xsdString), rest)

/-- Subject, predicate and object; `quoted` reads a quoted statement. -/
def triple (quoted : Lexer Node) : Lexer (Node × Term × Node) := fun cs => do
  let plain (lexer : Lexer Term) : Lexer Node := fun cs =>
    (lexer cs).map fun (t, rest) => (.term t, rest)
  let (subject, rest) ← quoted cs <|> plain resource cs
  let (predicate, rest) ← iri (afterInlineSpace rest)
  let rest := afterInlineSpace rest
  let (object, rest) ← quoted rest <|> plain resource rest <|> plain literal rest
  return ((subject, predicate, object), rest)

/-- A quoted statement with further ones inside, down to a depth. -/
def quoted : Nat → Lexer Node
  | 0, _ => none
  | depth + 1, cs => do
    let inside ← afterText? ['<', '<'] cs
    let (_, rest) ← triple (quoted depth) (afterInlineSpace inside)
    return (.quoted, ← afterText? ['>', '>'] (afterInlineSpace rest))

/-! ## 2. Lines and documents -/

/-- Whether nothing more of a line counts. -/
def isOver (cs : List Char) : Bool := cs.head?.all fun c => c == '#' || c == '\r'

/-- Takes one line in. -/
def addLine (quads : Bool) (contents : Contents) (line : List Char) : Option Contents := do
  let line := afterInlineSpace line
  if isOver line then return contents
  else
    let ((subject, predicate, object), rest) ← triple (quoted maxDepth) line
    let rest := afterInlineSpace rest
    let (graph, rest) :=
      if quads then
        match resource rest with
        | some (name, rest) => (some name, rest)
        | none => (none, rest)
      else (none, rest)
    let rest ← afterText? ['.'] (afterInlineSpace rest)
    guard (isOver (afterInlineSpace rest))
    return contents.add subject predicate object graph

/-- Reads a document; `quads` admits names of graphs. -/
def read (quads : Bool) (cs : List Char) : Option Contents :=
  ((cs.splitOn '\n').foldlM (addLine quads) {}).map Contents.reverse

end OntoWrap.Document.Lines
