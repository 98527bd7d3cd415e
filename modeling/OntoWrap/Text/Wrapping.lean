import OntoWrap.Text.Blank

/-!
# Filling lines with words

`wrap` breaks a text into lines of whole words.  A line is closed as soon as the words on it have
`width` characters or more, blanks not counted, and another word follows.  `normalize` puts all
words on one line.
-/
namespace OntoWrap.Text

/-! ## 1. Lines as lists of words -/

/-- Fills lines from a list of words: `line` holds the words of the open line, last one first, and
`count` their characters. -/
def fill (width : Nat) (line : List String) (count : Nat) : List String → List (List String)
  | [] => if line.isEmpty then [] else [line.reverse]
  | w :: ws =>
    if width ≤ count then line.reverse :: fill width [w] w.length ws
    else fill width (w :: line) (count + w.length) ws

/-- The words of a text, line by line. -/
def wrapWords (width : Nat) (text : String) : List (List String) :=
  fill width [] 0 (words text)

/-! ## 2. Lines as texts -/

/-- Words with one space between them. -/
def joinWords (ws : List String) : String := " ".intercalate ws

/-- The lines of a text. -/
def wrap (width : Nat) (text : String) : List String := (wrapWords width text).map joinWords

/-- A text with each run of blanks between its words turned into one space. -/
def normalize (text : String) : String := joinWords (words text)

end OntoWrap.Text
