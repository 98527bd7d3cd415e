import OntoWrap.Document.Contents
import OntoWrap.Document.Lexeme

/-!
# Reading with prefixes, a base and blank nodes

A `Reader` works on a document from front to back.  Beside the characters that are left it knows the
base and the prefixes in force, how many blank nodes it has named itself, the graph that statements
go to, and what it has read so far.

Steps are repeated by `iterate`.  A step that asks for another one has read something, so there are
at most as many as the document has characters.
-/
namespace OntoWrap.Document

open Text (Lexer afterText?)

/-! ## 1. State -/

/-- Where a reader stands. -/
structure Cursor where
  /-- Number of characters of the whole document. -/
  length : Nat
  /-- The characters that are left. -/
  rest : List Char
  base : Option Reference := none
  /-- Prefixes with what they stand for, the latest first. -/
  prefixes : List (String × String) := []
  /-- Number of blank nodes that the reader has named. -/
  created : Nat := 0
  /-- Graph of the next statements. -/
  graph : Option Term := none
  contents : Contents := {}

/-- Reads a value and moves on, or fails. -/
abbrev Reader (α : Type) := StateT Cursor Option α

namespace Reader

/-! ## 2. Characters -/

/-- The next character. -/
def peek? : Reader (Option Char) := return (← get).rest.head?

/-- Fails. -/
def refuse {α : Type} : Reader α := fun _ => none

/-- Passes over spaces and comments. -/
def skipSpace : Reader Unit := modify fun cursor => { cursor with rest := afterSpace cursor.rest }

/-- Takes a lexeme. -/
def lex {α : Type} (lexer : Lexer α) : Reader α := fun cursor =>
  (lexer cursor.rest).map fun (a, rest) => (a, { cursor with rest })

/-- Takes a lexeme if it comes next. -/
def lex? {α : Type} (lexer : Lexer α) : Reader (Option α) := fun cursor =>
  match lexer cursor.rest with
  | some (a, rest) => some (some a, { cursor with rest })
  | none => some (none, cursor)

/-- Whether a lexeme comes next. -/
def seesLexeme {α : Type} (lexer : Lexer α) : Reader Bool := return (lexer (← get).rest).isSome

/-- Whether a fixed text comes next. -/
def sees (text : String) : Reader Bool := seesLexeme (fixed text)

/-- Passes over a fixed text if it comes next, and says whether it did. -/
def accept (text : String) : Reader Bool := return (← lex? (fixed text)).isSome

/-- Passes over a keyword if it comes next, and says whether it did. -/
def acceptKeyword (word : String) : Reader Bool := return (← lex? (keyword word)).isSome

/-- Passes over a fixed text that has to come next. -/
def expect (text : String) : Reader Unit := lex (fixed text)

/-! ## 3. Repetition -/

/-- Result of one step of a repetition. -/
inductive Step (α β : Type) where
  /-- Another step, from this value. -/
  | again (next : α)
  /-- No more steps. -/
  | done (result : β)

/-- Repeats a step until it is done, at most a number of times. -/
def iterateWithin {α β : Type} (step : α → Reader (Step α β)) : Nat → α → Reader β
  | 0, _, _ => none
  | n + 1, start, cursor =>
    match step start cursor with
    | none => none
    | some (.done result, after) => some (result, after)
    | some (.again next, after) => iterateWithin step n next after

/-- Repeats a step until it is done. -/
def iterate {α β : Type} (step : α → Reader (Step α β)) (start : α) : Reader β := fun cursor =>
  iterateWithin step (cursor.length + 1) start cursor

/-! ## 4. Blank nodes and statements -/

/-- The start of the labels that a reader gives. -/
def ownLabel : String := "riog"

/-- A number with eight digits or more. -/
def eightDigits (n : Nat) : String :=
  let digits := Nat.toDigits 10 n
  String.ofList (List.replicate (8 - digits.length) '0' ++ digits)

/-- A blank node of its own. -/
def fresh : Reader Term := do
  let created := (← get).created + 1
  modify fun cursor => { cursor with created }
  return .blank (ownLabel ++ eightDigits created)

/-- Whether a label could be one that a reader gives, or one that was set apart from these. -/
def looksOwn (label : String) : Bool :=
  match afterText? ownLabel.toList label.toList with
  | some rest =>
    (rest.take 8).length = 8 && (rest.take 8).all Char.isDigit && (rest.drop 8).all (· == 'd')
  | none => false

/-- The label under which a written label is kept: never one that a reader gives. -/
def setApart (label : String) : String := if looksOwn label then label ++ "d" else label

/-- Takes a sentence in, for the graph in force. -/
def state (subject : Node) (predicate : Term) (object : Node) : Reader Unit :=
  modify fun cursor =>
    { cursor with contents := cursor.contents.add subject predicate object cursor.graph }

/-- Reads what belongs to a graph. -/
def inGraph (graph : Term) (reader : Reader Unit) : Reader Unit := do
  modify fun cursor => { cursor with graph := some graph }
  reader
  modify fun cursor => { cursor with graph := none }

/-- Reads a document from its start, and gives what it states. -/
def readWhole (reader : Reader Unit) (cs : List Char) : Option Contents :=
  (reader { length := cs.length, rest := cs }).map fun ((), cursor) => cursor.contents.reverse

end Reader

end OntoWrap.Document
