/-!
# Reading from the front of a text

A `Lexer` takes a value from the front of some characters and gives the characters that are left; it
fails where no such value stands.  This module holds the type and what readers of every format
share: a fixed text in front (`afterText?_eq_some_iff` says when it is there), and spaces and
comments to pass over.
-/
namespace OntoWrap.Text

/-- Takes a value from the front of some characters. -/
abbrev Lexer (α : Type) := List Char → Option (α × List Char)

/-! ## 1. Fixed texts -/

/-- The characters behind a fixed text. -/
def afterText? (text cs : List Char) : Option (List Char) :=
  if text.isPrefixOf cs then some (cs.drop text.length) else none

/-- A fixed text is passed over exactly where it stands in front. -/
theorem afterText?_eq_some_iff {text cs rest : List Char} :
    afterText? text cs = some rest ↔ cs = text ++ rest := by
  simp only [afterText?, Option.ite_none_right_eq_some, Option.some.injEq,
    List.isPrefixOf_iff_prefix]
  constructor
  · rintro ⟨⟨after, rfl⟩, rfl⟩
    simp
  · rintro rfl
    simp

/-! ## 2. Spaces and comments -/

/-- Spaces inside a line. -/
def isInlineSpace (c : Char) : Bool := c == ' ' || c == '\t'

/-- The characters after spaces inside a line. -/
def afterInlineSpace (cs : List Char) : List Char := cs.dropWhile isInlineSpace

/-- The characters after spaces and comments.  A comment goes from a number sign to a character that
ends its line. -/
def afterSpaceAndComments (isSpace isLineEnd : Char → Bool) : List Char → List Char
  | [] => []
  | c :: rest =>
    if isSpace c then afterSpaceAndComments isSpace isLineEnd rest
    else if c = '#' then inComment rest
    else c :: rest
where
  /-- The characters after the rest of a comment and the spaces and comments behind it. -/
  inComment : List Char → List Char
    | [] => []
    | c :: rest =>
      if isLineEnd c then afterSpaceAndComments isSpace isLineEnd rest else inComment rest

end OntoWrap.Text
