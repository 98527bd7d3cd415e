import OntoWrap.Text.Case.Table

/-!
# Letter case

The lower-case and upper-case forms of characters and texts, for all of Unicode.  One character may
have a form of several characters, and the capital sigma has two lower-case forms, of which a text
takes the one for the end of a word by looking at the sigma's neighbours.

ASCII is decided first and by itself, so that on ASCII the functions are core's own
(`lower_of_ascii`, `upper_of_ascii`).
-/
namespace OntoWrap.Text.Case

/-! ## 1. Looking a character up -/

/-- Whether a code point is ASCII. -/
def isAscii (c : Char) : Bool := c.toNat < 0x80

/-- Whether some range of first and last code points holds a character. -/
def inRanges (ranges : List (Nat × Nat)) (c : Char) : Bool :=
  ranges.any fun (first, last) => first ≤ c.toNat && c.toNat ≤ last

/-- Whether some run holds a character. -/
def inRuns (runs : List Run) (c : Char) : Bool := runs.any (·.covers c.toNat)

/-- The form of a character by a table of sequences, a table of runs, or else itself. -/
def formOf (sequences : List (Nat × List Nat)) (runs : List Run) (c : Char) : List Char :=
  match sequences.find? (·.1 == c.toNat) with
  | some (_, form) => form.map Char.ofNat
  | none =>
    match runs.find? (·.covers c.toNat) with
    | some r => [Char.ofNat (c.toNat + r.shift).toNat]
    | none => [c]

/-! ## 2. One character -/

/-- Lower-case form of a character. -/
def lower (c : Char) : List Char :=
  if isAscii c then [c.toLower] else formOf lowerSequences lowerRuns c

/-- Upper-case form of a character. -/
def upper (c : Char) : List Char :=
  if isAscii c then [c.toUpper] else formOf upperSequences upperRuns c

/-- Upper-case characters. -/
def isUpper (c : Char) : Bool :=
  if isAscii c then c.isUpper else inRuns upperCased c

/-- Lower-case characters. -/
def isLower (c : Char) : Bool :=
  if isAscii c then c.isLower else inRuns lowerCased c

/-- Characters with a case. -/
def isCased (c : Char) : Bool :=
  if isAscii c then c.isAlpha else inRanges casedRanges c

/-- Characters passed over when a letter's neighbours are looked at. -/
def isIgnorable (c : Char) : Bool :=
  if isAscii c then
    c == '\'' || c == '.' || c == ':' || c == '^' || c.toNat == 0x60
  else inRanges ignorableRanges c

/-! ## 3. Texts -/

/-- Whether the first character that is not passed over has a case. -/
def meetsCased (cs : List Char) : Bool :=
  match cs.dropWhile isIgnorable with
  | [] => false
  | c :: _ => isCased c

/-- Lower-case form of a text; `before` holds the characters already read, last one first.  A
capital sigma ends a word if a cased letter stands before it and none after it. -/
def lowerFrom (before : List Char) : List Char → List Char
  | [] => []
  | c :: rest =>
    (if c = 'Σ' then [if meetsCased before && !meetsCased rest then 'ς' else 'σ'] else lower c)
      ++ lowerFrom (c :: before) rest

/-- Lower-case form of a text. -/
def lowerText (s : String) : String := String.ofList (lowerFrom [] s.toList)

/-- Upper-case form of a text, character by character. -/
def upperText (s : String) : String := String.ofList (s.toList.flatMap upper)

/-! ## 4. ASCII -/

theorem lower_of_ascii {c : Char} (h : isAscii c = true) : lower c = [c.toLower] := by
  simp [lower, h]

theorem upper_of_ascii {c : Char} (h : isAscii c = true) : upper c = [c.toUpper] := by
  simp [upper, h]

/-- On ASCII the neighbours of a letter do not matter. -/
theorem lowerFrom_of_ascii {before cs : List Char} (h : ∀ c ∈ cs, isAscii c = true) :
    lowerFrom before cs = cs.map Char.toLower := by
  induction cs generalizing before with
  | nil => rfl
  | cons c cs ih =>
    have hc := h c (by simp)
    have hs : c ≠ 'Σ' := by
      rintro rfl
      exact absurd hc (by decide)
    simp [lowerFrom, hs, lower_of_ascii hc, ih fun d hd => h d (by simp [hd])]

theorem upper_map_of_ascii {cs : List Char} (h : ∀ c ∈ cs, isAscii c = true) :
    cs.flatMap upper = cs.map Char.toUpper := by
  induction cs with
  | nil => rfl
  | cons c cs ih =>
    simp [upper_of_ascii (h c (by simp)), ih fun d hd => h d (by simp [hd])]

end OntoWrap.Text.Case
