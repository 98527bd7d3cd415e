import OntoWrap.Command.Arguments
import OntoWrap.Command.Event

/-!
# Running the command

`Command.run` does what a command line asks for on a file tree.  Beside the tree it gives the exit
code, the text for standard output, the line that names an error, and the events to be told.
-/
namespace OntoWrap.Command

/-! ## 1. Results -/

/-- What a run leaves behind. -/
structure Result where
  tree : FileTree
  /-- Exit code. -/
  code : Nat
  /-- Text for standard output. -/
  output : String := ""
  /-- What could not be done. -/
  error : Option String := none
  /-- Lines that tell events. -/
  log : List String := []

/-- The exit code of a command line that cannot be understood. -/
def usageCode : Nat := 2

/-- How the command is used. -/
def helpText : String :=
  "\n".intercalate [
    "Generate resource wrapper classes from ontology files", "",
    "Usage: resgen [OPTIONS] <ONTOLOGY>...", "",
    "Arguments:",
    "  <ONTOLOGY>...  Ontology files to use (.ttl, .nt, .trig or .nq)", "",
    "Options:",
    "  -o, --output <PATH>    Destination folder (default: the current directory)",
    "  -q, --quiet            Don't print status messages to stdout",
    "      --target <TARGET>  Output language: `rust` or `qt`",
    "      --config <FILE>    TOML configuration file; command-line flags override its values",
    "  -h, --help             Print help", ""]

/-! ## 2. Steps -/

/-- Lines before the work. -/
def announcement (settings : Settings) (ontologies : List String) : List String := [
  "Generating from ontology files " ++ ",".intercalate ontologies,
  "Writing " ++ settings.target.name ++ " files to " ++ settings.outputDir ++ "."]

/-- Lines after the work. -/
def summary (counts : Counts) (progress : Progress) : List String := [
  "Generated " ++ toString counts.classes ++ " classes with " ++ toString counts.accessors
    ++ " property accessors",
  "Files: " ++ toString progress.written ++ " written, " ++ toString progress.unchanged
    ++ " unchanged",
  "Generation complete."]

/-- Text for standard output, which is empty unless progress is reported. -/
def printed (settings : Settings) (lines : List String) : String :=
  if settings.verbose then Text.Source.render lines else ""

/-- The events of documents, up to the first that cannot be read. -/
def loadEvents (documents : List (Except LoadFault Document.Contents)) : List Event :=
  (documents.takeWhile (·.isOk)).filterMap fun
    | .ok contents => Event.ofContents? contents
    | .error _ => none

/-- The least important level told if none is asked for. -/
def usualThreshold (settings : Settings) : Threshold :=
  some (if settings.verbose then .info else .warn)

/-- Generates wrappers from the files of an invocation. -/
def generateFrom (tree : FileTree) (threshold : Option Threshold) (ontologies : List String)
    (settings : Settings) : Result :=
  let threshold := threshold.getD (usualThreshold settings)
  let told (events : List Event) : List String :=
    (events.filter fun e => threshold.admits e.level).map Event.line
  let start := announcement settings ontologies
  let documents := ontologies.map (contentsOfFile tree)
  let loaded := loadEvents documents
  match Corpus.ofDocuments documents with
  | .error _ =>
    { tree, code := 1, output := printed settings start
      error := some "Failed to load ontologies", log := told loaded }
  | .ok corpus =>
    let store := corpus.store
    let noted := (Index.notes store).map Event.indexed
    let (result, progress) := generateInto tree store settings
    let wrote := progress.files.filterMap (Event.ofWrittenFile? settings.outputDir)
    let log := told (loaded ++ noted ++ wrote)
    match result with
    | .error _ =>
      { tree := progress.tree, code := 1, output := printed settings start
        error := some ("Failed to generate classes into " ++ settings.outputDir), log }
    | .ok counts =>
      { tree := progress.tree, code := 0
        output := printed settings (start ++ summary counts progress), log }

/-! ## 3. The command -/

/-- Runs the command.  The threshold, if one is given, decides which events are told. -/
def run (tree : FileTree) (threshold : Option Threshold) (arguments : List String) : Result :=
  match Request.ofArguments arguments with
  | none => { tree, code := usageCode }
  | some .help => { tree, code := 0, output := helpText }
  | some (.generate inv) =>
    match inv.settings tree with
    | .ok settings => generateFrom tree threshold inv.ontologies settings
    | .error _ =>
      { tree, code := 1, error := some ("Failed to load config: " ++ inv.config.getD "") }

end OntoWrap.Command
