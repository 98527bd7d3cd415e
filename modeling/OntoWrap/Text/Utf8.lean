/-!
# Reading bytes as text

`decodeLossy` reads bytes as UTF-8 and puts one replacement character for each longest run of bytes
that begins a character and does not finish it, and for each byte that begins none.
-/
namespace OntoWrap.Text.Utf8

/-! ## 1. Bytes of a character -/

/-- The character that stands for bytes that are no text. -/
def replacement : Char := Char.ofNat 0xFFFD

/-- Bytes after the second of a character. -/
def isContinuation (b : UInt8) : Bool := 0x80 ≤ b && b ≤ 0xBF

/-- Second bytes that a given first byte of a character admits. -/
def admitsSecond (first second : UInt8) : Bool :=
  if first == 0xE0 then 0xA0 ≤ second && second ≤ 0xBF
  else if first == 0xED then 0x80 ≤ second && second ≤ 0x9F
  else if first == 0xF0 then 0x90 ≤ second && second ≤ 0xBF
  else if first == 0xF4 then 0x80 ≤ second && second ≤ 0x8F
  else isContinuation second

/-- The character of a first byte, already freed of its length bits, and the bytes after it. -/
def assemble (high : Nat) (rest : List UInt8) : Char :=
  Char.ofNat (rest.foldl (fun n b => n * 64 + b.toNat % 64) high)

/-! ## 2. Reading -/

/-- Reads bytes as text, with replacements for what is none. -/
def decodeLossy : List UInt8 → List Char
  | [] => []
  | a :: rest =>
    if a < 0x80 then Char.ofNat a.toNat :: decodeLossy rest
    else if 0xC2 ≤ a && a ≤ 0xF4 then
      match rest with
      | [] => [replacement]
      | b :: rest₂ =>
        if !admitsSecond a b then replacement :: decodeLossy (b :: rest₂)
        else if a < 0xE0 then assemble (a.toNat % 32) [b] :: decodeLossy rest₂
        else
          match rest₂ with
          | [] => [replacement]
          | c :: rest₃ =>
            if !isContinuation c then replacement :: decodeLossy (c :: rest₃)
            else if a < 0xF0 then assemble (a.toNat % 16) [b, c] :: decodeLossy rest₃
            else
              match rest₃ with
              | [] => [replacement]
              | d :: rest₄ =>
                if !isContinuation d then replacement :: decodeLossy (d :: rest₄)
                else assemble (a.toNat % 8) [b, c, d] :: decodeLossy rest₄
    else replacement :: decodeLossy rest
termination_by bytes => bytes.length
decreasing_by all_goals (simp_all <;> omega)

end OntoWrap.Text.Utf8
