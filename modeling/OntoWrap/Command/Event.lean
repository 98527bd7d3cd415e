import OntoWrap.Corpus
import OntoWrap.Generation

/-!
# Events

What a run tells beside its result: what it has passed over while reading, and which files it has
written.  A threshold decides which events are told.
-/
namespace OntoWrap

/-! ## 1. Levels -/

/-- Importance of an event, the highest first. -/
inductive Level where
  | error
  | warn
  | info
  | debug
  | trace
  deriving DecidableEq, Repr

namespace Level

/-- Place of a level in the order. -/
def rank : Level → Nat
  | error => 1
  | warn => 2
  | info => 3
  | debug => 4
  | trace => 5

/-- Name of a level in a message. -/
def name : Level → String
  | error => "ERROR"
  | warn => "WARN"
  | info => "INFO"
  | debug => "DEBUG"
  | trace => "TRACE"

end Level

/-- The least important level that is told; nothing is told without one. -/
abbrev Threshold := Option Level

namespace Threshold

/-- The thresholds by their names, in lower case, and by their numbers. -/
def byName : List (String × Threshold) := [
  ("off", none), ("error", some .error), ("warn", some .warn), ("info", some .info),
  ("debug", some .debug), ("trace", some .trace), ("", some .error),
  ("0", none), ("1", some .error), ("2", some .warn), ("3", some .info), ("4", some .debug),
  ("5", some .trace)]

/-- The threshold with a name, in upper or lower case. -/
def ofName? (name : String) : Option Threshold := byName.lookup name.toLower

/-- Whether an event of a level is told. -/
def admits (threshold : Threshold) (level : Level) : Bool :=
  threshold.any fun least => level.rank ≤ least.rank

end Threshold

/-! ## 2. Events -/

/-- Something that a run tells. -/
inductive Event where
  /-- A document had sentences about quoted statements. -/
  | dropped (count : Nat)
  /-- A property is left out or has more than one range. -/
  | indexed (note : IndexNote)
  /-- A file was written. -/
  | wrote (path : String)
  deriving DecidableEq, Repr

namespace Event

/-- Level of an event. -/
def level : Event → Level
  | wrote _ => .info
  | _ => .warn

/-- Message of an event, behind its level. -/
def message : Event → String
  | dropped count =>
    "resgen_ontology::loader: ignored statements with unsupported terms skipped=" ++ toString count
  | indexed (.noRange property) =>
    "resgen_ontology::index: property has no rdfs:range; skipped property=" ++ Text.quote property
  | indexed (.severalRanges property range) =>
    "resgen_ontology::index: property has several ranges; using the first property="
      ++ Text.quote property ++ " range=" ++ Text.quote range
  | wrote path => "resgen_codegen: wrote path=" ++ path

/-- The line that tells an event. -/
def line (event : Event) : String := event.level.name ++ " " ++ event.message

/-- The event of a document, if it is worth one. -/
def ofContents? (contents : Document.Contents) : Option Event :=
  if contents.dropped = 0 then none else some (dropped contents.dropped)

/-- The event of an output, if it had to be written. -/
def ofWrittenFile? (outputDir : String) (file : WrittenFile) : Option Event :=
  match file.outcome with
  | .written => some (wrote (Path.join outputDir file.path))
  | .unchanged => none

end Event

end OntoWrap
