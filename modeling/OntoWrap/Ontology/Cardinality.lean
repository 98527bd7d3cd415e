import OntoWrap.Text.Blank
import OntoWrap.Text.Decimal

/-!
# Cardinality

How many values a property may have on one instance: a positive number that fits 32 bits, or any
number.  An ontology writes the number as a literal; what is no such number sets no bound.
-/
namespace OntoWrap

/-- Number of values that a property may have on one instance. -/
inductive Cardinality where
  /-- At most this many; the number fits 32 bits. -/
  | bounded (limit : Nat) (valid : 0 < limit ∧ limit < 4294967296)
  /-- Any number. -/
  | unbounded
  deriving DecidableEq, Repr

namespace Cardinality

/-- Exactly one value. -/
def one : Cardinality := bounded 1 (by decide)

/-- The bound of a number; zero and numbers beyond 32 bits set none. -/
def ofNat (n : Nat) : Cardinality :=
  if valid : 0 < n ∧ n < 4294967296 then bounded n valid else unbounded

/-- The bound, if there is one. -/
def limit? : Cardinality → Option Nat
  | bounded limit _ => some limit
  | unbounded => none

/-- Whether the property has a single value. -/
def isSingle (c : Cardinality) : Bool := c == one

/-! ## Reading -/

/-- The digits after an optional plus sign. -/
def afterPlus : List Char → List Char
  | '+' :: digits => digits
  | digits => digits

/-- Reads a bound: one or more digits, after an optional plus sign and between blanks. -/
def ofLexicalChars (cs : List Char) : Cardinality :=
  match Text.Decimal.ofDigits? (afterPlus (Text.trimChars cs)) with
  | some n => ofNat n.toNat
  | none => unbounded

/-- Reads a bound from the written form of a literal. -/
def ofLexical (lexical : String) : Cardinality := ofLexicalChars lexical.toList

end Cardinality

end OntoWrap
