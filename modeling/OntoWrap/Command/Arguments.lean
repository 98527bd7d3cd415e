import OntoWrap.Settings.Reading

/-!
# Arguments of the command line

Options may stand before, between and behind the ontology files.  A value follows its option as the
next argument or in the same one; short options may be written together.  An option may be given
once only, and everything behind two hyphens is a file.
-/
namespace OntoWrap

/-! ## 1. What is asked for -/

/-- A run of the generator, as the command line asks for it. -/
structure Invocation where
  output : Option String := none
  quiet : Bool := false
  target : Option Target := none
  /-- Settings file. -/
  config : Option String := none
  ontologies : List String := []
  deriving DecidableEq, Repr

/-- What a command line asks for. -/
inductive Request where
  | help
  | generate (invocation : Invocation)
  deriving DecidableEq, Repr

/-- Options with a value. -/
inductive ValueOption where
  | output
  | target
  | config
  deriving DecidableEq, Repr

/-- Long names of the options with a value. -/
def ValueOption.byName : List (String × ValueOption) :=
  [("output", output), ("target", target), ("config", config)]

namespace Invocation

/-! ## 2. Single options -/

/-- Sets an option with a value, unless it is set already or the value is none for it. -/
def set (inv : Invocation) (option : ValueOption) (value : String) : Option Invocation :=
  if value.isEmpty then none
  else
    match option with
    | .output => if inv.output.isSome then none else some { inv with output := some value }
    | .config => if inv.config.isSome then none else some { inv with config := some value }
    | .target =>
      if inv.target.isSome then none
      else (Target.ofName? value).map fun target => { inv with target := some target }

/-- Asks for quiet, unless that is asked already. -/
def setQuiet (inv : Invocation) : Option Invocation :=
  if inv.quiet then none else some { inv with quiet := true }

/-- Adds an ontology file. -/
def addOntology (inv : Invocation) (path : String) : Option Invocation :=
  if path.isEmpty then none else some { inv with ontologies := inv.ontologies ++ [path] }

/-- How reading goes on behind an argument. -/
inductive Next where
  /-- With the next argument. -/
  | goOn (inv : Invocation)
  /-- With the value of an option. -/
  | valueOf (option : ValueOption) (inv : Invocation)
  /-- Not at all. -/
  | help

/-- Sets an option with a value in the same argument. -/
def setAndGoOn (inv : Invocation) (option : ValueOption) (value : List Char) : Option Next :=
  (inv.set option (String.ofList value)).map .goOn

/-- Reads short options that are written together, without their hyphen.  An equals sign in front of
a value does not belong to it. -/
def readShort (inv : Invocation) : List Char → Option Next
  | [] => some (.goOn inv)
  | 'q' :: rest => do readShort (← inv.setQuiet) rest
  | 'h' :: _ => some .help
  | 'o' :: [] => some (.valueOf .output inv)
  | 'o' :: '=' :: value => inv.setAndGoOn .output value
  | 'o' :: value => inv.setAndGoOn .output value
  | _ => none

/-- Reads a long option, without its hyphens: its name, and its value behind an equals sign. -/
def readLong (inv : Invocation) (cs : List Char) : Option Next :=
  let name := String.ofList (cs.takeWhile (· ≠ '='))
  match ValueOption.byName.lookup name, cs.dropWhile (· ≠ '=') with
  | some option, _ :: value => inv.setAndGoOn option value
  | some option, [] => some (.valueOf option inv)
  | none, [] =>
    if name = "quiet" then inv.setQuiet.map .goOn
    else if name = "help" then some .help
    else none
  | none, _ => none

/-- Reads one argument. -/
def readArgument (inv : Invocation) (argument : String) : Option Next :=
  match argument.toList with
  | '-' :: '-' :: long => readLong inv long
  | '-' :: c :: short => readShort inv (c :: short)
  | _ => (inv.addOntology argument).map .goOn

/-- Whether an argument cannot be the value of an option in front of it. -/
def isOption (argument : String) : Bool :=
  argument.toList.head? = some '-' && argument ≠ "-"

/-! ## 3. Whole command lines -/

/-- What is asked for when all arguments are read. -/
def finish (inv : Invocation) : Option Request :=
  if inv.ontologies.isEmpty then none else some (.generate inv)

/-- Reads the arguments that are left. -/
def read (inv : Invocation) : List String → Option Request
  | [] => inv.finish
  | argument :: rest =>
    if argument = "--" then (rest.foldlM addOntology inv).bind finish
    else
      match inv.readArgument argument with
      | none => none
      | some .help => some .help
      | some (.goOn inv) => inv.read rest
      | some (.valueOf option inv) =>
        match rest with
        | [] => none
        | value :: rest =>
          if isOption value then none
          else
            match inv.set option value with
            | none => none
            | some inv => inv.read rest

/-- Settings of a run: those of the settings file, if there is one, under those of the command
line. -/
def settings (inv : Invocation) (tree : FileTree) : Except SettingsFault Settings := do
  let base ← match inv.config with
    | some path => Settings.ofFile tree path
    | none => pure {}
  return { base with
    outputDir := inv.output.getD base.outputDir
    verbose := base.verbose && !inv.quiet
    target := inv.target.getD base.target }

end Invocation

/-- What a command line asks for, if it can be understood. -/
def Request.ofArguments (arguments : List String) : Option Request :=
  Invocation.read {} arguments

end OntoWrap
