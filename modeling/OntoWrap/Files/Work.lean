import OntoWrap.Files.Tree

/-!
# Work on files

Work on files looks at a file tree and changes it step by step.  `FileWork` keeps the steps apart:
what comes next is chosen once it is known how a step went.  So one can tell what there is between
any two steps, and what becomes of the work when a step is hindered from outside, by a full disk or
a missing permission.

A step is done as a whole or not at all.  Only the filling of a file may break off, after any number
of bytes; and nothing hinders a file from being taken away.
-/
namespace OntoWrap

/-! ## 1. Steps -/

/-- One change of a file tree. -/
inductive FileStep where
  /-- Makes a folder. -/
  | makeFolder (location : Location)
  /-- Makes an empty file. -/
  | makeFile (location : Location)
  /-- Gives a file its bytes. -/
  | fill (location : Location) (bytes : ByteArray)
  /-- Lets everyone read a file.  File trees keep no permissions, but the step can be hindered. -/
  | permit (location : Location)
  /-- Moves what stands at a location to another one, over what stands there. -/
  | move (source target : Location)
  /-- Takes away what stands at a location. -/
  | discard (location : Location)

namespace FileStep

/-- The tree after a step. -/
def apply (tree : FileTree) : FileStep → FileTree
  | makeFolder location => tree.put location .folder
  | makeFile location => tree.put location (.file .empty)
  | fill location bytes => tree.put location (.file bytes)
  | permit _ => tree
  | move source target =>
    match tree.get? source with
    | some entry => (tree.remove source).put target entry
    | none => tree
  | discard location => tree.remove location

/-- The tree after a step that was hindered when so many bytes had been written. -/
def breakOff (tree : FileTree) (filled : Nat) : FileStep → FileTree
  | fill location bytes => tree.put location (.file (bytes.extract 0 filled))
  | _ => tree

end FileStep

/-- What hinders a step from outside: the fault that the step gives, and the number of bytes that
were written before it. -/
structure Hindrance where
  fault : IoFault
  filled : Nat := 0
  deriving DecidableEq, Repr

/-- What hinders each of the next steps; nothing hinders those that are not told. -/
abbrev Hindrances := List (Option Hindrance)

/-- Tries a step: how it went, and the tree after it. -/
def FileStep.attempt (tree : FileTree) (hindrance : Option Hindrance) (step : FileStep) :
    Except IoFault Unit × FileTree :=
  match hindrance, step with
  | _, .discard location => (.ok (), apply tree (.discard location))
  | none, step => (.ok (), step.apply tree)
  | some h, step => (.error h.fault, step.breakOff tree h.filled)

/-! ## 2. Work -/

/-- Work on files that ends with a result. -/
inductive FileWork (α : Type) where
  | done (result : α)
  /-- Looks at the tree. -/
  | look (next : FileTree → FileWork α)
  /-- Tries a step, and goes on as it went. -/
  | change (step : FileStep) (next : Except IoFault Unit → FileWork α)

namespace FileWork

variable {α β : Type}

/-- Does one work after another. -/
def andThen : FileWork α → (α → FileWork β) → FileWork β
  | done result, f => f result
  | look next, f => look fun tree => (next tree).andThen f
  | change step next, f => change step fun outcome => (next outcome).andThen f

instance : Monad FileWork where
  pure := done
  bind := andThen

/-- Does some work on a tree amid hindrances: the result, and the last tree. -/
def runAmid : FileWork α → Hindrances → FileTree → α × FileTree
  | done result, _, tree => (result, tree)
  | look next, hindrances, tree => (next tree).runAmid hindrances tree
  | change step next, hindrances, tree =>
    let (outcome, after) := step.attempt tree (hindrances.headD none)
    (next outcome).runAmid hindrances.tail after

end FileWork

end OntoWrap
