import OntoWrap.Toml.Value

/-!
# TOML documents

A document is a table whose lines give values to keys; a header in square brackets opens a table
inside it, to which the lines below it belong.  `Toml.read` refuses a document that gives a value
twice or opens a table that is complete already.
-/
namespace OntoWrap.Toml

open Text (Lexer afterText? afterInlineSpace)

/-! ## 1. Tables by their path -/

/-- Opens the table with a path of keys.  It must be new, or known only from tables inside it. -/
def Entries.openTable : List String → Entries → Option Entries
  | [], _ => none
  | [key], entries =>
    match entries.lookup key with
    | none => some (entries ++ [(key, .table .headed [])])
    | some (.table .implied inner) => some (entries.replace key (.table .headed inner))
    | some _ => none
  | key :: rest, entries =>
    match entries.lookup key with
    | none => (openTable rest []).map fun inner => entries ++ [(key, .table .implied inner)]
    | some (.table .inlined _) => none
    | some (.table origin inner) =>
      (openTable rest inner).map fun inner => entries.replace key (.table origin inner)
    | some _ => none

/-- Changes the entries of the table with a path. -/
def Entries.within (change : Entries → Option Entries) : List String → Entries → Option Entries
  | [], entries => change entries
  | key :: rest, entries =>
    match entries.lookup key with
    | some (.table origin inner) =>
      (within change rest inner).map fun inner => entries.replace key (.table origin inner)
    | _ => none

/-! ## 2. Characters -/

/-- Turns each carriage return before a line end into nothing. -/
def dropReturns : List Char → List Char
  | '\r' :: '\n' :: rest => '\n' :: dropReturns rest
  | c :: rest => c :: dropReturns rest
  | [] => []

/-- Drops a byte order mark in front. -/
def dropMark : List Char → List Char
  | c :: rest => if c.toNat = 0xFEFF then rest else c :: rest
  | [] => []

/-- Characters that may not occur anywhere. -/
def isForbidden (c : Char) : Bool := (c.toNat < 0x20 && !isSpace c) || c.toNat == 0x7F

/-! ## 3. Lines -/

/-- The characters behind the end of a line, in front of which a comment may stand. -/
def lineEnd (cs : List Char) : Option (List Char) :=
  match afterInlineSpace cs with
  | [] => some []
  | '\n' :: rest => some rest
  | '#' :: rest => some (rest.dropWhile (· ≠ '\n'))
  | _ => none

/-- A header: keys between square brackets. -/
def header : Lexer (List String) := fun cs => do
  let (path, rest) ← keys (afterInlineSpace (← afterText? ['['] cs))
  return (path, ← afterText? [']'] (afterInlineSpace rest))

/-- Reads lines up to the end, with the path of the open table; `fuel` bounds their number. -/
def readLines : Nat → List String → Entries → List Char → Option Entries
  | 0, _, _, _ => none
  | fuel + 1, opened, entries, cs =>
    match afterSpace cs with
    | [] => some entries
    | c :: rest =>
      if c = '[' then do
        let (path, rest) ← header (c :: rest)
        readLines fuel path (← entries.openTable path) (← lineEnd rest)
      else do
        let ((path, v), rest) ← assignment value (c :: rest)
        readLines fuel opened (← entries.within (Entries.assign v path) opened) (← lineEnd rest)

/-- Reads a document. -/
def read (text : String) : Option Entries :=
  let cs := dropReturns (dropMark text.toList)
  if cs.any isForbidden then none else readLines (cs.length + 1) [] [] cs

end OntoWrap.Toml
