import OntoWrap.Files.Work

/-!
# Writing files

A file is replaced as a whole or not at all: `write` fills a temporary file in the same folder and
then moves it into place, and takes it away if anything on the way fails.  A file that has the
wanted bytes already is left alone, and missing folders are made on the way.

What an action has changed before it fails stays changed.
-/
namespace OntoWrap

/-- Work on files that gives a value or fails. -/
abbrev FileAction (α : Type) := ExceptT IoFault FileWork α

namespace FileAction

variable {α : Type}

/-- The work of an action, which gives a fault as a result. -/
def work (action : FileAction α) : FileWork (Except IoFault α) := ExceptT.run action

/-- Does what an action says on a tree, with no hindrances. -/
def run (action : FileAction α) (tree : FileTree) : Except IoFault α × FileTree :=
  action.work.runAmid [] tree

/-- The tree as it is now. -/
def look : FileAction FileTree := ExceptT.lift (FileWork.look .done)

/-- Tries a step. -/
def change (step : FileStep) : FileAction Unit := ExceptT.mk (FileWork.change step .done)

/-- The location that a path leads to now. -/
def locate (path : String) : FileAction Location := do
  (← look).locate path

/-- What stands at a location now. -/
def lookAt (location : Location) : FileAction (Option Entry) := do
  return (← look).get? location

/-! ## 1. Folders -/

/-- Makes one folder. -/
def makeFolder (path : String) : FileAction Unit := do
  let location ← locate path
  match ← lookAt location with
  | some _ => throw .alreadyExists
  | none => change (.makeFolder location)

/-- Whether a path leads to a folder. -/
def isFolder (path : String) : FileAction Bool := do
  let tree ← look
  match tree.locate path with
  | .ok location => return tree.get? location == some .folder
  | .error _ => return false

/-- Makes one folder unless it is there. -/
def ensureFolder (path : String) : FileAction Unit :=
  tryCatch (makeFolder path) fun fault => do
    unless fault = .alreadyExists && (← isFolder path) do throw fault

/-- Makes the first of some folders, each inside the next one, and those of the others that are
missing. -/
def ensureFolders : List String → FileAction Unit
  | [] => return
  | folder :: above =>
    tryCatch (ensureFolder folder) fun fault => do
      unless fault = .notFound do throw fault
      ensureFolders above
      ensureFolder folder

/-! ## 2. Temporary files -/

/-- Names for temporary files. -/
def temporaryName (n : Nat) : String := ".resgen-" ++ toString n ++ ".tmp"

/-- Puts an empty file under a free name into a folder. -/
def stage (folder : Location) : FileAction Location := do
  let tree ← look
  let candidates := (List.range (tree.entries.length + 1)).map fun n => folder ++ [temporaryName n]
  match candidates.find? fun location => (tree.get? location).isNone with
  | some location => do
    change (.makeFile location)
    return location
  | none => throw .alreadyExists

/-- Gives a file its bytes. -/
def fill (location : Location) (bytes : ByteArray) : FileAction Unit :=
  change (.fill location bytes)

/-- Lets everyone read a file. -/
def permit (location : Location) : FileAction Unit := change (.permit location)

/-- Takes a file away. -/
def discard (location : Location) : FileAction Unit := change (.discard location)

/-- Moves a file in one step to where a path leads, over a file that stands there. -/
def commit (temporary : Location) (path : String) : FileAction Unit := do
  let location ← locate path
  if Path.endsInSlash path then throw .notADirectory
  match ← lookAt location with
  | some .folder => throw .isADirectory
  | _ =>
    match ← lookAt temporary with
    | some _ => change (.move temporary location)
    | none => throw .notFound

/-! ## 3. Writing -/

/-- What writing has done to a file. -/
inductive WriteOutcome where
  | written
  /-- The file had the wanted bytes already. -/
  | unchanged
  deriving DecidableEq, Repr

/-- Whether a path leads to a file with the given bytes. -/
def holds (path : String) (bytes : ByteArray) : FileAction Bool := do
  match (← look).read path with
  | .ok found => return found == bytes
  | .error _ => return false

/-- Fills a temporary file and moves it into place. -/
def install (temporary : Location) (path : String) (bytes : ByteArray) : FileAction Unit := do
  fill temporary bytes
  permit temporary
  commit temporary path

/-- Puts a file with the given bytes into place, by way of a temporary file in a folder. -/
def replace (folder : Location) (path : String) (bytes : ByteArray) : FileAction Unit := do
  let temporary ← stage folder
  tryCatch (install temporary path bytes) fun fault => do
    discard temporary
    throw fault

/-- Gives the file of a path a text. -/
def write (path text : String) : FileAction WriteOutcome := do
  let bytes := text.toUTF8
  if ← holds path bytes then return .unchanged
  else
    ensureFolders (Path.folders path)
    replace (← locate (Path.folder path)) path bytes
    return .written

end FileAction

end OntoWrap
