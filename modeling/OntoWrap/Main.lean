import OntoWrap.Command.Run

/-!
# The program

Runs the command on the file system.  What the command may look at is read into a file tree; the
command works on the tree, and what it has changed there is written back.
-/
namespace OntoWrap

/-- Path of a location from the root. -/
def absolutePath (location : Location) : String := Path.ofComponents true location

/-- Takes over what stands at a location. -/
def observe (tree : FileTree) (location : Location) : IO FileTree := do
  if ← (System.mkFilePath [absolutePath location]).isDir then return tree.put location .folder
  else
    try return tree.put location (.file (← IO.FS.readBinFile (absolutePath location)))
    catch _ => return tree

/-- Takes over what stands on the way to a path. -/
def observePath (tree : FileTree) (path : String) : IO FileTree := do
  let start := if Path.isAbsolute path then [] else tree.home
  let names := (Path.components path).filter (· ≠ ".")
  let location := names.foldl (fun l name => if name = ".." then l.dropLast else l ++ [name]) start
  (Path.startsOf location).reverse.foldlM observe tree

/-- Takes over the working folder and the files that a command line names. -/
def observeInputs (arguments : List String) : IO FileTree := do
  let home := Path.segments (← IO.currentDir).toString
  let tree ← (Path.startsOf home).reverse.foldlM observe { home }
  match Request.ofArguments arguments with
  | some (.generate inv) => (inv.config.toList ++ inv.ontologies).foldlM observePath tree
  | _ => return tree

/-- Takes over what stands where a run would change something. -/
def observeOutputs (before after : FileTree) : IO FileTree :=
  (after.entries.reverse.map (·.1)).foldlM (fun tree location =>
    if (before.get? location).isSome then pure tree else observe tree location) before

/-- Writes back what differs between two trees. -/
def writeChanges (before after : FileTree) : IO Unit :=
  after.entries.reverse.forM fun (location, entry) => do
    unless before.get? location == some entry do
      let path := absolutePath location
      match entry with
      | .folder => IO.FS.createDirAll path
      | .file bytes =>
        IO.FS.createDirAll (Path.folder path)
        IO.FS.writeBinFile (path ++ ".tmp") bytes
        IO.FS.rename (path ++ ".tmp") path

end OntoWrap

open OntoWrap in
/-- Runs the command with the arguments of the program, and gives its exit code. -/
def main (arguments : List String) : IO UInt32 := do
  let threshold := (← IO.getEnv "RUST_LOG").bind Threshold.ofName?
  let inputs ← observeInputs arguments
  let tree ← observeOutputs inputs (Command.run inputs threshold arguments).tree
  let result := Command.run tree threshold arguments
  writeChanges tree result.tree
  IO.print result.output
  result.log.forM IO.eprintln
  result.error.forM fun error => IO.eprintln ("Error: " ++ error)
  return result.code.toUInt32
