import OntoWrap.Files.Tree
import OntoWrap.Wrapper.Render.Qt
import OntoWrap.Wrapper.Render.Rust

/-!
# Settings of a generator run

For which language wrappers are written, where to, and the two names that generated code takes from
outside.
-/
namespace OntoWrap

/-! ## 1. Targets -/

/-- Language of the generated wrappers. -/
inductive Target where
  | rust
  | qt
  deriving DecidableEq, Repr

namespace Target

/-- Name of a target. -/
def name : Target → String
  | rust => "rust"
  | qt => "qt"

/-- The names under which a target may be asked for, in lower case. -/
def byName : List (String × Target) := [("rust", rust), ("qt", qt), ("cpp", qt), ("c++", qt)]

/-- The target with a name, in upper or lower case. -/
def ofName? (name : String) : Option Target := byName.lookup name.toLower

end Target

/-! ## 2. Settings -/

/-- Settings of a run. -/
structure Settings where
  /-- The folder under which all output goes. -/
  outputDir : String := "."
  /-- Whether progress is reported. -/
  verbose : Bool := true
  target : Target := .rust
  /-- Path of the crate that Rust wrappers use. -/
  rustRuntime : String := "simpleresource"
  /-- Namespace around all C++ wrappers. -/
  qtNamespace : String := "Nepomuk"
  deriving DecidableEq, Repr

/-- The renderer that some settings ask for. -/
def Settings.renderer (settings : Settings) : Renderer :=
  match settings.target with
  | .rust => Rust.renderer settings.rustRuntime
  | .qt => Qt.renderer settings.qtNamespace

/-- Why settings cannot be had. -/
inductive SettingsFault where
  | unreadable (path : String) (cause : IoFault)
  | malformed (origin : String)
  | unknownTarget (name : String)
  deriving DecidableEq, Repr

/-- The message of a fault, up to where its cause is explained. -/
def SettingsFault.message : SettingsFault → String
  | unreadable path _ => "cannot read config " ++ path ++ ": "
  | malformed origin => "invalid config " ++ origin ++ ": "
  | unknownTarget name => "unknown target `" ++ name ++ "` (expected `rust` or `qt`)"

end OntoWrap
