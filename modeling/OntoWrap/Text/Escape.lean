/-!
# Undoing backslash escapes

`unescape` reads a text in which a backslash begins an escape.  A format says which single letters
may follow the backslash and what they stand for; `u` with four and `U` with eight hexadecimal
digits always stand for the character of that code point.  What is no escape is refused.
-/
namespace OntoWrap.Text

/-! ## 1. Hexadecimal digits -/

/-- The value of a hexadecimal digit. -/
def hexValue? (c : Char) : Option Nat :=
  if c.isDigit then some (c.toNat - '0'.toNat)
  else if 'a' ≤ c && c ≤ 'f' then some (c.toNat - 'a'.toNat + 10)
  else if 'A' ≤ c && c ≤ 'F' then some (c.toNat - 'A'.toNat + 10)
  else none

/-- Whether a character is a hexadecimal digit. -/
def isHexDigit (c : Char) : Bool := (hexValue? c).isSome

/-- The character of a code point, if there is one. -/
def charOfCode? (n : Nat) : Option Char :=
  if n.isValidChar then some (Char.ofNat n) else none

/-! ## 2. Escapes -/

/-- Where a reader of escapes stands. -/
inductive EscapeState where
  /-- Outside of an escape. -/
  | plain
  /-- After a backslash. -/
  | opened
  /-- In a code point: digits still to come, and the value of those read. -/
  | digits (left value : Nat)

/-- Reads on from a state. -/
def unescapeFrom (letter : Char → Option Char) : EscapeState → List Char → Option (List Char)
  | .plain, [] => some []
  | _, [] => none
  | .plain, c :: rest =>
    if c = '\\' then unescapeFrom letter .opened rest
    else (unescapeFrom letter .plain rest).map (c :: ·)
  | .opened, c :: rest =>
    if c = 'u' then unescapeFrom letter (.digits 4 0) rest
    else if c = 'U' then unescapeFrom letter (.digits 8 0) rest
    else (letter c).bind fun d => (unescapeFrom letter .plain rest).map (d :: ·)
  | .digits left value, c :: rest =>
    (hexValue? c).bind fun d =>
      let read := value * 16 + d
      if left ≤ 1 then
        (charOfCode? read).bind fun e => (unescapeFrom letter .plain rest).map (e :: ·)
      else unescapeFrom letter (.digits (left - 1) read) rest

/-- Reads a text with escapes. -/
def unescape (letter : Char → Option Char) (cs : List Char) : Option (List Char) :=
  unescapeFrom letter .plain cs

end OntoWrap.Text
