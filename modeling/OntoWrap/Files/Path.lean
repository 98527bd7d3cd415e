/-!
# Paths

A path is a text with slashes between its segments.  Empty segments mean nothing, and a segment `.`
means nothing unless it comes first.  The functions here look at paths as texts only; what a path
leads to is a matter of `OntoWrap.Files.Tree`.
-/
namespace OntoWrap.Path

/-! ## 1. Segments -/

/-- The segments of a path that are not empty. -/
def segments (path : String) : List String :=
  ((path.toList.splitOn '/').filter (· ≠ [])).map String.ofList

/-- The segments of a path that mean something: a `.` only if it comes first. -/
def components (path : String) : List String :=
  match segments path with
  | [] => []
  | first :: rest =>
    let named := rest.filter (· ≠ ".")
    if first = "." ∧ path.toList.head? = some '/' then named else first :: named

/-- Whether a path ends in a slash, and so asks for a directory. -/
def endsInSlash (path : String) : Bool := path.toList.getLast? = some '/'

/-- Whether a path starts from the root. -/
def isAbsolute (path : String) : Bool := path.toList.head? = some '/'

/-! ## 2. Putting together and taking apart -/

/-- The path of some components. -/
def ofComponents (absolute : Bool) (names : List String) : String :=
  (if absolute then "/" else "") ++ "/".intercalate names

/-- The starts of a list other than the empty one, the longest first. -/
def startsOf (names : List String) : List (List String) :=
  descend names.reverse
where
  /-- The same, from the list in the opposite order. -/
  descend : List String → List (List String)
    | [] => []
    | name :: above => (name :: above).reverse :: descend above

/-- The paths of the folders that a path names on the way, the last one first. -/
def folders (path : String) : List String :=
  (startsOf (components path).dropLast).map (ofComponents (isAbsolute path))

/-- The path of the folder that holds what a path leads to. -/
def folder (path : String) : String :=
  (folders path).head?.getD (if isAbsolute path then "/" else ".")

/-- The path of something below a base; a path that starts from the root stands for itself. -/
def join (base relative : String) : String :=
  if isAbsolute relative then relative
  else if base.isEmpty || endsInSlash base then base ++ relative
  else base ++ "/" ++ relative

/-- The name of the file that a path leads to, if its last component is a name. -/
def fileName? (path : String) : Option String :=
  match (components path).getLast? with
  | some name => if name = "." ∨ name = ".." then none else some name
  | none => none

/-- What follows the last dot of a file name, unless only the start of the name stands before it. -/
def extension? (path : String) : Option String := do
  let name ← fileName? path
  match name.toList.reverse.dropWhile (· ≠ '.') with
  | [] => none
  | _ :: stem =>
    if stem = [] then none
    else some (String.ofList (name.toList.reverse.takeWhile (· ≠ '.')).reverse)

end OntoWrap.Path
