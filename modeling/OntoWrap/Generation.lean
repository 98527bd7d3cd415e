import OntoWrap.Files.Writing
import OntoWrap.Settings

/-!
# Generating all wrappers

`renderAll` plans and renders every class of an index; nothing is written before all of this has
succeeded and no two outputs share a path.  `generate` then writes one output after the other and
stops at the first that cannot be written.
-/
namespace OntoWrap

/-! ## 1. All outputs -/

/-- The plans of all classes, in IRI order, and all outputs: the class files and then the files
about the set of all classes. -/
structure Rendering where
  units : List ClassUnit
  outputs : List OutputUnit
  deriving DecidableEq, Repr

/-- Number of properties with accessors, summed over the classes. -/
def Rendering.accessorCount (rendering : Rendering) : Nat :=
  (rendering.units.flatMap (·.accessors)).length

/-- The first output whose path an earlier one has, as a fault. -/
def sharedPath? (earlier : List OutputUnit) : List OutputUnit → Option PlanFault
  | [] => none
  | out :: rest =>
    match earlier.find? (·.path == out.path) with
    | some first => some (.duplicateOutput out.path [first.origin, out.origin])
    | none => sharedPath? (earlier ++ [out]) rest

/-- The outputs for some plans. -/
def Renderer.outputs (renderer : Renderer) (units : List ClassUnit) : List OutputUnit :=
  units.map renderer.render ++ renderer.renderIndexes units

/-- Plans and renders all classes. -/
def renderAll (index : Index) (renderer : Renderer) : Except PlanFault Rendering := do
  let units ← index.classes.mapM (index.plan renderer.methodName)
  let outputs := renderer.outputs units
  match sharedPath? [] outputs with
  | some fault => throw fault
  | none => return ⟨units, outputs⟩

/-! ## 2. Writing -/

/-- Why wrappers are not generated. -/
inductive GenerationFault where
  | plan (fault : PlanFault)
  /-- An output cannot be written. -/
  | unwritable (path : String) (cause : IoFault)
  deriving DecidableEq, Repr

/-- The message of a fault, up to where its cause is explained. -/
def GenerationFault.message : GenerationFault → String
  | plan fault => fault.message
  | unwritable path _ => "cannot write " ++ path ++ ": "

/-- What has become of one output. -/
structure WrittenFile where
  /-- Path below the output folder. -/
  path : String
  outcome : FileAction.WriteOutcome
  deriving DecidableEq, Repr

/-- What a run leaves behind: the files, and what has become of the outputs it came to, in order. -/
structure Progress where
  tree : FileTree
  files : List WrittenFile := []
  deriving DecidableEq

/-- Number of outputs that had to be written. -/
def Progress.written (progress : Progress) : Nat :=
  progress.files.countP (·.outcome == .written)

/-- Number of outputs that were up to date. -/
def Progress.unchanged (progress : Progress) : Nat :=
  progress.files.countP (·.outcome == .unchanged)

/-- Work on files that tells what has become of outputs, and gives a value or says why wrappers are
not generated. -/
abbrev GenerationAction (α : Type) := ExceptT GenerationFault (StateT (List WrittenFile) FileWork) α

/-- The work of an action, from no outputs on; it gives a fault as a result. -/
def GenerationAction.work {α : Type} (action : GenerationAction α) :
    FileWork (Except GenerationFault α × List WrittenFile) := (ExceptT.run action).run []

/-- Writes one output below a folder. -/
def writeOutput (outputDir : String) (out : OutputUnit) : GenerationAction Unit := do
  let path := Path.join outputDir out.path
  match ← (FileAction.write path out.contents).work with
  | .ok outcome => modifyThe (List WrittenFile) (· ++ [⟨out.path, outcome⟩])
  | .error cause => throw (.unwritable path cause)

/-- Number of classes with wrappers and of properties with accessors. -/
structure Counts where
  classes : Nat
  accessors : Nat
  deriving DecidableEq, Repr

/-- Generates the wrappers for all classes of a store. -/
def generate (store : Store) (settings : Settings) : GenerationAction Counts := do
  match renderAll (.ofStore store) settings.renderer with
  | .error fault => throw (.plan fault)
  | .ok rendering => do
    rendering.outputs.forM (writeOutput settings.outputDir)
    return ⟨rendering.units.length, rendering.accessorCount⟩

/-- Generates the wrappers for all classes of a store into a file tree, amid hindrances. -/
def generateAmid (hindrances : Hindrances) (tree : FileTree) (store : Store) (settings : Settings) :
    Except GenerationFault Counts × Progress :=
  let ((result, files), after) := (generate store settings).work.runAmid hindrances tree
  (result, ⟨after, files⟩)

/-- Generates the wrappers for all classes of a store into a file tree. -/
def generateInto (tree : FileTree) (store : Store) (settings : Settings) :
    Except GenerationFault Counts × Progress :=
  generateAmid [] tree store settings

end OntoWrap
