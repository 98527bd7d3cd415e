import OntoWrap.Text.Wrapping

/-!
# Source text, line by line

Generated files are built as lists of lines.  `render` ends each line, `finish` also drops the
blanks at the end of the file, and `comment` fills comment lines with the words of a text.
-/
namespace OntoWrap.Text.Source

/-! ## 1. From lines to text -/

/-- The text of some lines, each with its end. -/
def render (lines : List String) : String := String.join (lines.map (· ++ "\n"))

/-- The text of a whole file: exactly one line end stands at its end. -/
def finish (lines : List String) : String := trimEnd (render lines) ++ "\n"

/-! ## 2. Building lines -/

/-- Characters of words after which a comment line is closed. -/
def commentWidth : Nat := 50

/-- Comment lines, each after the same lead (indentation and comment marker). -/
def comment (lead text : String) : List String := (wrap commentWidth text).map (lead ++ ·)

/-- Lines moved four columns to the right; an empty line stays empty. -/
def indent (lines : List String) : List String :=
  lines.map fun line => if line.isEmpty then line else "    " ++ line

/-- A head that opens a brace, an indented body, and the closing brace. -/
def block (head : String) (body : List String) : List String :=
  (head ++ " \x7b") :: indent body ++ ["\x7d"]

end OntoWrap.Text.Source
