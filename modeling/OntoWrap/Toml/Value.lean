import OntoWrap.Text.Escape
import OntoWrap.Text.Lexer

/-!
# Keys and values of TOML

TOML is a format for settings: lines that give values to keys, in tables with headers.  This module
reads keys and the values that a setting may have: texts, truth values, tables on one line and the
empty list.  Numbers, dates and lists with elements are no setting of any kind, so they are refused
where they stand.
-/
namespace OntoWrap.Toml

open Text (Lexer afterText? afterInlineSpace isInlineSpace)

/-! ## 1. Values -/

/-- How a table came to be, which decides where it may be added to. -/
inductive Origin where
  /-- Written as a value; it is complete. -/
  | inlined
  /-- Opened by a header of its own. -/
  | headed
  /-- Made by the dots of a key; only such keys add to it. -/
  | dotted
  /-- Made by the header of a table inside it; it may still get a header. -/
  | implied
  deriving DecidableEq, Repr

/-- What a key may stand for. -/
inductive Value where
  | text (content : String)
  | truth (value : Bool)
  | emptyList
  | table (origin : Origin) (entries : List (String × Value))
  deriving Repr

/-- Keys with their values, in the order of the keys' first occurrences. -/
abbrev Entries := List (String × Value)

/-- Gives a value to a key, in place of the one that it has. -/
def Entries.replace (entries : Entries) (key : String) (value : Value) : Entries :=
  entries.map fun (k, v) => if k = key then (k, value) else (k, v)

/-- Gives a value to the last of some keys.  The keys in front of it lead through tables that only
such keys have made. -/
def Entries.assign (value : Value) : List String → Entries → Option Entries
  | [], _ => none
  | [key], entries =>
    if (entries.lookup key).isSome then none else some (entries ++ [(key, value)])
  | key :: rest, entries =>
    match entries.lookup key with
    | none => (assign value rest []).map fun inner => entries ++ [(key, .table .dotted inner)]
    | some (.table .dotted inner) =>
      (assign value rest inner).map fun inner => entries.replace key (.table .dotted inner)
    | some _ => none

/-! ## 2. Spaces -/

/-- Spaces and line ends. -/
def isSpace (c : Char) : Bool := isInlineSpace c || c == '\n'

/-- The characters after spaces, line ends and comments. -/
def afterSpace (cs : List Char) : List Char := Text.afterSpaceAndComments isSpace (· == '\n') cs

/-! ## 3. Texts -/

/-- Letters after a backslash. -/
def textLetter : Char → Option Char
  | 't' => some '\t'
  | 'b' => some '\x08'
  | 'n' => some '\n'
  | 'r' => some '\r'
  | 'f' => some '\x0c'
  | '"' => some '"'
  | '\\' => some '\\'
  | _ => none

/-- Undoes the escapes of a text if its quote has any. -/
def unquote (quote : Char) (body : List Char) : Option String :=
  if quote = '"' then (Text.unescape textLetter body).map String.ofList
  else some (String.ofList body)

/-- The characters up to a quote on the same line, and what follows the quote. -/
def shortBody (quote : Char) : Lexer (List Char)
  | [] => none
  | c :: rest =>
    if c = '\n' then none
    else if c = quote then some ([], rest)
    else if c = '\\' ∧ quote = '"' then
      match rest with
      | [] => none
      | d :: rest => (shortBody quote rest).map fun (body, after) => (c :: d :: body, after)
    else (shortBody quote rest).map fun (body, after) => (c :: body, after)

/-- The characters up to three quotes, and what follows them.  One or two quotes right before these
belong to the text. -/
def longBody (quote : Char) : Lexer (List Char)
  | [] => none
  | c :: rest =>
    if c = quote then
      match rest with
      | d :: e :: more =>
        if d = quote ∧ e = quote ∧ ¬ (more.head? = some quote) then some ([], more)
        else if d = quote ∧ e = quote ∧ (more.take 3) = [quote, quote, quote] then
          some ([quote, quote], more.drop 2)
        else (longBody quote (d :: e :: more)).map fun (body, after) => (c :: body, after)
      | _ => none
    else if c = '\\' ∧ quote = '"' then
      match rest with
      | [] => none
      | d :: rest => (longBody quote rest).map fun (body, after) => (c :: d :: body, after)
    else (longBody quote rest).map fun (body, after) => (c :: body, after)

/-- Drops each backslash at the end of a line, with all spaces and line ends behind it; `dropping`
holds right behind one. -/
def joinLines (dropping : Bool) : List Char → List Char
  | [] => []
  | '\\' :: c :: rest =>
    if (afterInlineSpace (c :: rest)).head? = some '\n' then joinLines true (c :: rest)
    else '\\' :: c :: joinLines false rest
  | c :: rest =>
    if dropping && isSpace c then joinLines true rest else c :: joinLines false rest

/-- A text on one line. -/
def shortText : Lexer String
  | [] => none
  | quote :: rest =>
    if quote = '"' ∨ quote = '\'' then do
      let (body, after) ← shortBody quote rest
      return (← unquote quote body, after)
    else none

/-- A text over several lines; a line end right behind the opening quotes does not belong to it. -/
def longText : Lexer String
  | [] => none
  | quote :: rest =>
    if quote = '"' ∨ quote = '\'' then do
      let inside ← afterText? [quote, quote] rest
      let inside := (afterText? ['\n'] inside).getD inside
      let (body, after) ← longBody quote inside
      let body := if quote = '"' then joinLines false body else body
      return (← unquote quote body, after)
    else none

/-- A text of either kind. -/
def text : Lexer String := fun cs =>
  let opensLong := ["\"\"\"", "'''"].any fun quotes => (afterText? quotes.toList cs).isSome
  if opensLong then longText cs else shortText cs

/-! ## 4. Keys -/

/-- Characters of keys without quotes. -/
def isBareChar (c : Char) : Bool := c.isAlphanum || c == '-' || c == '_'

/-- One key, with or without quotes. -/
def key : Lexer String := fun cs =>
  let bare := cs.takeWhile isBareChar
  if bare ≠ [] then some (String.ofList bare, cs.dropWhile isBareChar) else shortText cs

/-- Keys with dots between them; `fuel` bounds their number. -/
def keysWithin : Nat → Lexer (List String)
  | 0, _ => none
  | fuel + 1, cs => do
    let (first, rest) ← key cs
    match afterText? ['.'] (afterInlineSpace rest) with
    | none => return ([first], rest)
    | some rest =>
      let (others, rest) ← keysWithin fuel (afterInlineSpace rest)
      return (first :: others, rest)

/-- One or more keys with dots between them. -/
def keys : Lexer (List String) := fun cs => keysWithin (cs.length + 1) cs

/-! ## 5. Reading values -/

/-- A key with its value; `value` reads values. -/
def assignment (value : Lexer Value) : Lexer (List String × Value) := fun cs => do
  let (path, rest) ← keys cs
  let rest ← afterText? ['='] (afterInlineSpace rest)
  let (v, rest) ← value (afterInlineSpace rest)
  return ((path, v), rest)

/-- The keys of a table on one line, up to its closing brace; `fuel` bounds their number. -/
def inlineEntries (value : Lexer Value) : Nat → Entries → Lexer Entries
  | 0, _, _ => none
  | fuel + 1, entries, cs => do
    let ((path, v), rest) ← assignment value (afterInlineSpace cs)
    let entries ← Entries.assign v path entries
    match afterText? [','] (afterInlineSpace rest) with
    | some rest => inlineEntries value fuel entries rest
    | none => return (entries, ← afterText? ['\x7d'] (afterInlineSpace rest))

/-- A table on one line, behind its opening brace. -/
def inlineTable (value : Lexer Value) : Lexer Value := fun cs =>
  match afterText? ['\x7d'] (afterInlineSpace cs) with
  | some rest => some (.table .inlined [], rest)
  | none =>
    (inlineEntries value (cs.length + 1) [] cs).map fun (entries, rest) =>
      (.table .inlined entries, rest)

/-- Reads a value with tables inside tables down to a depth. -/
def valueWithin : Nat → Lexer Value
  | 0, _ => none
  | depth + 1, cs =>
    match afterText? ['['] cs, afterText? ['\x7b'] cs with
    | some inside, _ => (afterText? [']'] (afterSpace inside)).map fun rest => (.emptyList, rest)
    | _, some inside => inlineTable (valueWithin depth) inside
    | none, none =>
      match afterText? "true".toList cs, afterText? "false".toList cs with
      | some rest, _ => some (.truth true, rest)
      | _, some rest => some (.truth false, rest)
      | none, none => (text cs).map fun (content, rest) => (.text content, rest)

/-- How deep tables may be nested in a value. -/
def maxDepth : Nat := 80

/-- Reads a value. -/
def value : Lexer Value := valueWithin maxDepth

end OntoWrap.Toml
