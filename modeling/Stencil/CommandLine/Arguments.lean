import Stencil.Options.Raw

/-!
# What a command line says

`Arguments` is what was read from a command line. `Arguments.rawOptions` gives the options of the
run that it names; they take precedence over options from other sources. The parameters are those
that `Args` declares for `clap` 4.5.
-/
namespace Stencil.CommandLine

/-- A parameter that takes a value. -/
inductive Setting
  | database | messaging | auth | crud | operations | path
  /-- The directory of the library. -/
  | templates
  /-- The root of the workspace. -/
  | workspace
  deriving DecidableEq, Repr

/-- A parameter without a value. -/
inductive Toggle
  | flag (flag : Flag)
  | verbose
  /-- Whether options are read from the standard input. -/
  | stdin
  deriving DecidableEq, Repr

/-- A parameter that is given by a name behind dashes. -/
inductive Parameter
  | setting (setting : Setting)
  | toggle (toggle : Toggle)
  | help
  | version
  deriving DecidableEq, Repr

def Parameter.ofLong : String → Option Parameter
  | "database" => some (.setting .database)
  | "messaging" => some (.setting .messaging)
  | "kafka" => some (.setting .messaging)
  | "auth" => some (.setting .auth)
  | "crud" => some (.setting .crud)
  | "operations" => some (.setting .operations)
  | "path" => some (.setting .path)
  | "templates" => some (.setting .templates)
  | "workspace" => some (.setting .workspace)
  | "flat" => some (.toggle (.flag .flat))
  | "skip-tests" => some (.toggle (.flag .skipTests))
  | "apply-migrations" => some (.toggle (.flag .applyMigrations))
  | "dry-run" => some (.toggle (.flag .dryRun))
  | "force" => some (.toggle (.flag .force))
  | "verbose" => some (.toggle .verbose)
  | "stdin" => some (.toggle .stdin)
  | "help" => some .help
  | "version" => some .version
  | _ => none

def Parameter.ofShort : Char → Option Parameter
  | 'd' => some (.setting .database)
  | 'm' => some (.setting .messaging)
  | 'a' => some (.setting .auth)
  | 'c' => some (.setting .crud)
  | 'o' => some (.setting .operations)
  | 'p' => some (.setting .path)
  | 'w' => some (.setting .workspace)
  | 'f' => some (.toggle (.flag .force))
  | 'v' => some (.toggle .verbose)
  | 's' => some (.toggle .stdin)
  | 'h' => some .help
  | 'V' => some .version
  | _ => none

def Setting.name : Setting → String
  | .database => "database"
  | .messaging => "messaging"
  | .auth => "auth"
  | .crud => "crud"
  | .operations => "operations"
  | .path => "path"
  | .templates => "templates"
  | .workspace => "workspace"

/-- Whether a setting names a directory; such a name is never empty. -/
def Setting.isDirectory : Setting → Bool
  | .templates | .workspace => true
  | _ => false

/-- What was read from a command line (`Args`). -/
structure Arguments where
  schematic : String
  name : Option String
  database : Option String
  messaging : Option String
  auth : Option String
  crud : Option String
  operations : Option String
  path : Option String
  flags : List Flag
  verbose : Bool
  /-- Whether options are read from the standard input. -/
  stdin : Bool
  /-- The directory of the library, if one is given. -/
  templates : Option String
  workspace : String
  deriving DecidableEq, Repr

namespace Arguments

/-- The options with a text that are given, under their canonical names. -/
def textOptions (a : Arguments) : RawOptions :=
  [("name", a.name), ("database", a.database), ("messaging", a.messaging), ("auth", a.auth),
    ("crud", a.crud), ("operations", a.operations), ("path", a.path)].filterMap
    fun (key, value) => value.map fun text => (key, .string text)

/-- The order in which switches are given to a run. -/
def flagOrder : List Flag := [.flat, .skipTests, .applyMigrations, .dryRun, .force]

/-- The options that the command line gives (`Args.raw_options`). A switch that is not given is left
out, so that it does not hide what another source says. -/
def rawOptions (a : Arguments) : RawOptions :=
  a.textOptions
    ++ (flagOrder.filter a.flags.contains).map fun flag => (flag.text, .bool true)

/-- The options of the run (`merge_stdin_options`): those of a JSON text from the standard input, if
it is read, with those of the command line over them. -/
def options (a : Arguments) (input : Except Failure String) : Except Failure RawOptions :=
  if a.stdin then do
    let base ← RawOptions.parse (← input)
    pure (base.overlay a.rawOptions)
  else .ok (RawOptions.overlay [] a.rawOptions)

end Arguments
end Stencil.CommandLine
