import OntoWrap.Ascending
import OntoWrap.Files.Path

/-!
# File trees

A file tree says what stands at each location below one root: a folder, a file with its bytes, or
nothing.  `FileTree.locate` follows a path through the folders and tells to which location it leads;
the location may be free, but all folders on the way have to be there.

The view of a tree is `FileTree.get?`: `put` and `remove` change it at one location and nowhere
else (`get?_put`, `get?_remove`).
-/
namespace OntoWrap

/-! ## 1. Entries -/

/-- Why something about files fails. -/
inductive IoFault where
  | notFound
  /-- The bytes of a file are no text. -/
  | invalidData
  | isADirectory
  /-- Something other than a folder stands where a folder is needed. -/
  | notADirectory
  | alreadyExists
  /-- A name or a path is too long. -/
  | invalidFilename
  deriving DecidableEq, Repr

/-- Names of folders from the root down, and the name of an entry in the last one. -/
abbrev Location := List String

/-- What stands at a location. -/
inductive Entry where
  | folder
  | file (bytes : ByteArray)

instance : DecidableEq Entry
  | .folder, .folder => isTrue rfl
  | .folder, .file _ => isFalse (by simp)
  | .file _, .folder => isFalse (by simp)
  | .file ⟨a⟩, .file ⟨b⟩ => if h : a = b then isTrue (by rw [h]) else isFalse (by simpa using h)

/-- Folders and files below a root. -/
structure FileTree where
  entries : List (Location × Entry) := []
  /-- The folder that relative paths start from. -/
  home : Location := []
  deriving DecidableEq

namespace FileTree

/-- What stands at a location.  The root is a folder. -/
def get? (tree : FileTree) (location : Location) : Option Entry :=
  if location = [] then some .folder else tree.entries.lookup location

/-- Takes away what stands at a location. -/
def remove (tree : FileTree) (location : Location) : FileTree :=
  { tree with entries := tree.entries.filter fun e => e.1 != location }

/-- Puts an entry at a location, in place of what stands there. -/
def put (tree : FileTree) (location : Location) (entry : Entry) : FileTree :=
  { tree with entries := (location, entry) :: (tree.remove location).entries }

theorem lookup_filter_ne {α β : Type} [BEq α] [LawfulBEq α] {a b : α} (h : (a == b) = false) :
    ∀ entries : List (α × β),
      (entries.filter fun e => e.1 != b).lookup a = entries.lookup a
  | [] => rfl
  | (c, entry) :: rest => by
    have ih := lookup_filter_ne h rest
    by_cases hc : c = b
    · subst hc
      simp [List.lookup_cons, h, ih]
    · simp [hc, List.lookup_cons, ih]

theorem lookup_filter_self {α β : Type} [BEq α] [LawfulBEq α] (a : α) :
    ∀ entries : List (α × β), (entries.filter fun e => e.1 != a).lookup a = none
  | [] => rfl
  | (c, entry) :: rest => by
    have ih := lookup_filter_self a rest
    by_cases hc : c = a
    · simp [hc, ih]
    · have hac : (a == c) = false := by simpa using fun e => hc e.symm
      simp [hc, List.lookup_cons, ih, hac]

theorem get?_remove {tree : FileTree} {location other : Location} :
    (tree.remove location).get? other =
      if other = [] then some .folder else if other = location then none else tree.get? other := by
  unfold get? remove
  split
  · rfl
  · split
    · rename_i h
      rw [h, lookup_filter_self]
    · rename_i h
      simp [lookup_filter_ne (beq_false_of_ne h)]

theorem get?_put {tree : FileTree} {location other : Location} {entry : Entry} :
    (tree.put location entry).get? other =
      if other = [] then some .folder
      else if other = location then some entry else tree.get? other := by
  by_cases hroot : other = []
  · simp [get?, hroot]
  · by_cases h : other = location
    · simp [get?, put, h]
    · have hrem : (tree.remove location).get? other = tree.get? other := by
        rw [get?_remove]; simp [hroot, h]
      simpa [get?, put, hroot, h, List.lookup_cons, beq_false_of_ne h] using hrem

/-! ## 2. Following paths -/

/-- Bytes that a name may have. -/
def maxName : Nat := 255

/-- Bytes that a path may have. -/
def maxPath : Nat := 4095

/-- Follows segments from a folder.  Two dots lead to the folder above, which for the root is the
root. -/
def follow (tree : FileTree) (start : Location) : List String → Except IoFault Location
  | [] => .ok start
  | segment :: rest =>
    match tree.get? start with
    | none => .error .notFound
    | some (.file _) => .error .notADirectory
    | some .folder =>
      if segment = "." then tree.follow start rest
      else if segment = ".." then tree.follow start.dropLast rest
      else if maxName < segment.utf8ByteSize then .error .invalidFilename
      else tree.follow (start ++ [segment]) rest

/-- The location that a path leads to. -/
def locate (tree : FileTree) (path : String) : Except IoFault Location :=
  if path.isEmpty then .error .notFound
  else if maxPath < path.utf8ByteSize then .error .invalidFilename
  else tree.follow (if Path.isAbsolute path then [] else tree.home) (Path.segments path)

/-! ## 3. Reading -/

/-- The bytes of the file that a path leads to. -/
def read (tree : FileTree) (path : String) : Except IoFault ByteArray := do
  match tree.get? (← tree.locate path) with
  | none => .error .notFound
  | some .folder => .error .isADirectory
  | some (.file bytes) => if Path.endsInSlash path then .error .notADirectory else .ok bytes

/-- The text of the file that a path leads to. -/
def readText (tree : FileTree) (path : String) : Except IoFault String := do
  match String.fromUTF8? (← tree.read path) with
  | some text => .ok text
  | none => .error .invalidData

/-! ## 4. Listing -/

/-- All files with their paths from the root, in the order of the paths. -/
def files (tree : FileTree) : List (String × ByteArray) :=
  (tree.entries.filterMap fun
    | (location, .file bytes) => some ("/".intercalate location, bytes)
    | (_, .folder) => none).mergeSort fun a b => a.1 ≤ b.1

/-- The paths of all entries from the root, in order; a slash ends the path of a folder. -/
def listing (tree : FileTree) : List String :=
  ascending (tree.entries.map fun
    | (location, .file _) => "/".intercalate location
    | (location, .folder) => "/".intercalate location ++ "/")

end FileTree

end OntoWrap
