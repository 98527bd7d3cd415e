import OntoWrap.Settings
import OntoWrap.Toml.Table

/-!
# Reading settings

A settings file is a TOML document.  Every setting may be left out and then keeps its usual value; a
key that is no setting, and a value of the wrong kind, make the whole file malformed.
-/
namespace OntoWrap.Settings

/-! ## 1. Values -/

/-- A target: its name, or its name as the only key of a table with an empty value. -/
def target? : Toml.Value → Option Target
  | .text name => byExactName name
  | .table _ [(name, .table _ [])] => byExactName name
  | .table _ [(name, .emptyList)] => byExactName name
  | _ => none
where
  /-- The target with a name, in this spelling. -/
  byExactName (name : String) : Option Target := [Target.rust, .qt].find? (·.name == name)

/-- Takes over the value of one key. -/
def assign (settings : Settings) (entry : String × Toml.Value) : Option Settings :=
  match entry with
  | ("output-dir", .text dir) => some { settings with outputDir := dir }
  | ("verbose", .truth verbose) => some { settings with verbose }
  | ("target", value) => (target? value).map fun target => { settings with target }
  | ("rust-runtime", .text runtime) => some { settings with rustRuntime := runtime }
  | ("qt-namespace", .text name) => some { settings with qtNamespace := name }
  | _ => none

/-! ## 2. Documents -/

/-- Reads settings from a text; `origin` says in messages where it comes from. -/
def ofText (origin text : String) : Except SettingsFault Settings :=
  match (Toml.read text).bind fun entries => entries.foldlM assign {} with
  | some settings => .ok settings
  | none => .error (.malformed origin)

/-- Reads settings from a file. -/
def ofFile (tree : FileTree) (path : String) : Except SettingsFault Settings := do
  let text ← (tree.readText path).mapError (.unreadable path)
  ofText path text

end OntoWrap.Settings
