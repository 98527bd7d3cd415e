import OntoWrap.Text.Printable.Table

/-!
# Quoted texts

A text between double quotes.  The quote, the backslash and four controls have a two-character
escape; a character that is not plain is written by its code point in hexadecimal digits, between
braces after a backslash and a `u`; all others stand for themselves.

Which characters are plain is a parameter of `quoteBy`; `quote` takes those that are seen and stand
on their own.
-/
namespace OntoWrap.Text

/-! ## 1. Plain characters -/

/-- Characters with a glyph of their own. -/
def isVisible (c : Char) : Bool :=
  let n := c.toNat
  if n < 0x80 then 0x20 ≤ n && n < 0x7F
  else !Printable.invisibleRanges.any fun (first, last) => first ≤ n && n ≤ last

/-- Characters that extend the character before them. -/
def isExtending (c : Char) : Bool :=
  let n := c.toNat
  0x80 ≤ n && Printable.extendingRanges.any fun (first, last) => first ≤ n && n ≤ last

/-- Characters that are seen and stand on their own. -/
def isPlain (c : Char) : Bool := isVisible c && !isExtending c

/-! ## 2. Writing -/

/-- A code point in lower-case hexadecimal digits, between braces after a backslash and a `u`. -/
def codePointEscape (c : Char) : List Char :=
  ['\\', 'u', '\x7b'] ++ Nat.toDigits 16 c.toNat ++ ['\x7d']

/-- The written form of one character inside quotes. -/
def escapeChar (plain : Char → Bool) (c : Char) : List Char :=
  if c = '\x00' then ['\\', '0']
  else if c = '\t' then ['\\', 't']
  else if c = '\r' then ['\\', 'r']
  else if c = '\n' then ['\\', 'n']
  else if c = '\\' then ['\\', '\\']
  else if c = '"' then ['\\', '"']
  else if plain c then [c]
  else codePointEscape c

/-- A text between quotes, for a given choice of plain characters. -/
def quoteBy (plain : Char → Bool) (s : String) : String :=
  String.ofList ('"' :: s.toList.flatMap (escapeChar plain) ++ ['"'])

/-- A text between quotes. -/
def quote (s : String) : String := quoteBy isPlain s

end OntoWrap.Text
