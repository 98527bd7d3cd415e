/-!
# Decimal numbers of 32 bits

A number is read from its decimal digits, first to last, into 32 bits.  The reading is given up at
the digit with which the number would wrap around, so it gives the number of all digits or none.
-/
namespace OntoWrap.Text.Decimal

/-! ## 1. Arithmetic -/

/-- Ten times a number, if that fits 32 bits. -/
def timesTen? (n : UInt32) : Option UInt32 :=
  if n ≤ 429496729 then some (n * 10) else none

/-- The sum of two numbers, if that fits 32 bits: one that wraps around is less than what it adds
to. -/
def add? (n m : UInt32) : Option UInt32 :=
  if n + m < n then none else some (n + m)

/-! ## 2. Digits -/

/-- The number that a decimal digit stands for. -/
def digit? (c : Char) : Option UInt32 :=
  if c.isDigit then some (c.val - '0'.val) else none

/-- Puts one more digit behind a number. -/
def appendDigit? (n : UInt32) (c : Char) : Option UInt32 := do
  let digit ← digit? c
  let tens ← timesTen? n
  add? tens digit

/-- The number of one or more digits. -/
def ofDigits? (cs : List Char) : Option UInt32 :=
  if cs = [] then none else cs.foldlM appendDigit? 0

end OntoWrap.Text.Decimal
