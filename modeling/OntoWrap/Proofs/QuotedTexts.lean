import Mathlib.Data.Nat.Digits.Defs
import OntoWrap.Text.Escape
import OntoWrap.Text.Lexer
import OntoWrap.Text.Quoted

/-!
# Reading quoted texts back

`literal` reads a string literal of one line by the rules of Rust: it stops at the first quote that
no backslash stands before, and undoes escapes by a letter, by two hexadecimal digits and by a code
point between braces.  It gives back every text that was quoted, whichever characters count as plain
(`literal_quoteBy`).
-/
namespace OntoWrap.Text

/-! ## 1. The reader -/

/-- What a letter stands for after a backslash. -/
def letterOf? : Char → Option Char
  | 'n' => some '\n'
  | 'r' => some '\r'
  | 't' => some '\t'
  | '0' => some '\x00'
  | '\\' => some '\\'
  | '\'' => some '\''
  | '"' => some '"'
  | _ => none

/-- Where a reader of a literal stands. -/
inductive LiteralState where
  /-- Outside of an escape. -/
  | plain
  /-- After a backslash. -/
  | opened
  /-- In an escape by two digits: digits still to come, and the value of those read. -/
  | byte (left value : Nat)
  /-- Before the brace of a code point. -/
  | brace
  /-- In a code point: digits that may still come, and the value of those read. -/
  | digits (left value : Nat)

/-- One more character in front of what was read. -/
def withChar (c : Char) (read : Option (List Char × List Char)) : Option (List Char × List Char) :=
  read.map fun (cs, rest) => (c :: cs, rest)

/-- Reads on from a state, up to the closing quote. -/
def literalFrom : LiteralState → Lexer (List Char)
  | _, [] => none
  | .plain, c :: rest =>
    if c = '"' then some ([], rest)
    else if c = '\\' then literalFrom .opened rest
    else withChar c (literalFrom .plain rest)
  | .opened, c :: rest =>
    if c = 'u' then literalFrom .brace rest
    else if c = 'x' then literalFrom (.byte 2 0) rest
    else (letterOf? c).bind fun d => withChar d (literalFrom .plain rest)
  | .byte left value, c :: rest =>
    (hexValue? c).bind fun d =>
      let read := value * 16 + d
      if 1 < left then literalFrom (.byte (left - 1) read) rest
      else if read < 128 then withChar (Char.ofNat read) (literalFrom .plain rest)
      else none
  | .brace, c :: rest => if c = '\x7b' then literalFrom (.digits 6 0) rest else none
  | .digits left value, c :: rest =>
    if c = '\x7d' then
      if left = 6 then none
      else (charOfCode? value).bind fun d => withChar d (literalFrom .plain rest)
    else if left = 0 then none
    else (hexValue? c).bind fun d => literalFrom (.digits (left - 1) (value * 16 + d)) rest

/-- Reads a literal from its opening quote on. -/
def literal : Lexer String
  | '"' :: rest => (literalFrom .plain rest).map fun (cs, after) => (String.ofList cs, after)
  | _ => none

/-! ## 2. Code points -/

theorem hexValue?_digitChar {d : Nat} (h : d < 16) :
    hexValue? (Nat.digitChar d) = some d ∧ Nat.digitChar d ≠ '\x7d' := by
  have hall : ∀ d < 16, hexValue? (Nat.digitChar d) = some d ∧ Nat.digitChar d ≠ '\x7d' := by decide
  exact hall d h

theorem charOfCode?_toNat (c : Char) : charOfCode? c.toNat = some c := by
  have hvalid : c.toNat.isValidChar := c.valid
  rw [charOfCode?, if_pos hvalid, Char.ofNat_toNat]

theorem literalFrom_digitChar {left value d : Nat} (hd : d < 16) (hleft : left ≠ 0)
    (rest : List Char) :
    literalFrom (.digits left value) (Nat.digitChar d :: rest)
      = literalFrom (.digits (left - 1) (value * 16 + d)) rest := by
  obtain ⟨hvalue, hopen⟩ := hexValue?_digitChar hd
  rw [literalFrom, if_neg hopen, if_neg hleft, hvalue, Option.bind_some]

/-- Digits are read as the number that they were written for. -/
theorem literalFrom_toDigits (n : Nat) (hn : (Nat.toDigits 16 n).length ≤ 6) (rest : List Char) :
    literalFrom (.digits 6 0) (Nat.toDigits 16 n ++ rest)
      = literalFrom (.digits (6 - (Nat.toDigits 16 n).length) n) rest := by
  induction n using Nat.strong_induction_on generalizing rest with
  | _ n ih =>
    by_cases hsmall : n < 16
    · rw [Nat.toDigits_of_lt_base hsmall, List.singleton_append,
        literalFrom_digitChar hsmall (by decide)]
      simp
    · have hsplit := Nat.toDigits_of_base_le (b := 16) (n := n) (by decide) (by omega)
      have hlength := congrArg List.length hsplit
      rw [List.length_append, List.length_singleton] at hlength
      rw [hsplit, List.append_assoc, ih (n / 16) (by omega) (by omega), List.singleton_append,
        literalFrom_digitChar (Nat.mod_lt _ (by decide)) (by omega), ← hsplit, Nat.div_add_mod',
        hlength]
      congr 2

/-- **An escaped code point is read as its character.** -/
theorem literalFrom_codePointEscape (c : Char) (rest : List Char) :
    literalFrom .plain (codePointEscape c ++ rest) = withChar c (literalFrom .plain rest) := by
  have hlength : (Nat.toDigits 16 c.toNat).length ≤ 6 := by
    refine Nat.toDigits_length 16 _ 6 (by decide) ?_
    have hvalid : c.toNat < 0xd800 ∨ 0xdfff < c.toNat ∧ c.toNat < 0x110000 := c.valid
    omega
  have hpositive : 0 < (Nat.toDigits 16 c.toNat).length := by
    have hsplit := Nat.toDigits_eq_if (b := 16) (n := c.toNat) (by decide)
    rw [hsplit]
    split <;> simp
  simp only [codePointEscape, List.cons_append, List.nil_append, List.append_assoc]
  rw [literalFrom, if_neg (by decide), if_pos rfl, literalFrom, if_pos rfl, literalFrom, if_pos rfl,
    literalFrom_toDigits _ hlength, literalFrom, if_pos rfl, if_neg (by omega), charOfCode?_toNat,
    Option.bind_some]

/-! ## 3. Quoted texts -/

theorem literalFrom_escapeChar (plain : Char → Bool) (c : Char) (rest : List Char) :
    literalFrom .plain (escapeChar plain c ++ rest) = withChar c (literalFrom .plain rest) := by
  unfold escapeChar
  split_ifs with hnull htab hreturn hline hbackslash hquote hplain
  · subst hnull; rfl
  · subst htab; rfl
  · subst hreturn; rfl
  · subst hline; rfl
  · subst hbackslash; rfl
  · subst hquote; rfl
  · rw [List.singleton_append, literalFrom, if_neg hquote, if_neg hbackslash]
  · exact literalFrom_codePointEscape c rest

/-- The reader stops at the quote that closes the text. -/
theorem literalFrom_flatMap (plain : Char → Bool) (cs rest : List Char) :
    literalFrom .plain (cs.flatMap (escapeChar plain) ++ '"' :: rest) = some (cs, rest) := by
  induction cs with
  | nil => rfl
  | cons c cs ih =>
    rw [List.flatMap_cons, List.append_assoc, literalFrom_escapeChar, ih]
    rfl

/-- **A quoted text is read back**, whatever follows it. -/
theorem literal_quoteBy (plain : Char → Bool) (s : String) (rest : List Char) :
    literal ((quoteBy plain s).toList ++ rest) = some (s, rest) := by
  have hchars : (quoteBy plain s).toList ++ rest
      = '"' :: (s.toList.flatMap (escapeChar plain) ++ '"' :: rest) := by
    simp [quoteBy]
  rw [hchars, literal, literalFrom_flatMap]
  simp

/-- An escape that ends in a quote does not end the text. -/
example : literal "\"a\\\"b\" rest".toList = some ("a\"b", " rest".toList) := by decide

end OntoWrap.Text
