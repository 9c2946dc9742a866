import Stencil.Options.Raw
import Stencil.Options.Destination

/-!
# The options of a run

`Options` is the complete record that every later stage reads. `Options.normalize` builds it from
raw options: it checks the name first, then what the schematic requires, then the destination, the
operations, the choices and the switches.
-/
namespace Stencil

/-- All parameters of one generation run (`NormalizedOptions`). -/
structure Options where
  name : String
  names : Identifier.Variants
  /-- Where the files go, relative to the workspace root. -/
  path : String
  database : Database
  messaging : Messaging
  auth : Auth
  crud : Crud
  /-- In declaration order, each once. -/
  operations : List Operation
  skipTests : Bool
  flat : Bool
  dryRun : Bool
  applyMigrations : Bool
  force : Bool
  deriving DecidableEq, Repr

namespace Options

def flag (o : Options) : Flag → Bool
  | .skipTests => o.skipTests
  | .flat => o.flat
  | .dryRun => o.dryRun
  | .applyMigrations => o.applyMigrations
  | .force => o.force

def hasOperation (o : Options) (operation : Operation) : Bool := o.operations.contains operation

/-- What a schematic and the place of the run ask of the options (`NormalizeSettings`). -/
structure Settings where
  /-- Options that must be given besides the name. -/
  required : List String
  /-- The destination of a run that is given none. -/
  defaultPath : String
  /-- The workspace that absolute destinations must lie in. -/
  workspace : Option Workspace

/-- The name of the module, which must hold a letter or a digit. -/
def nameOf (options : RawOptions) : Except Failure String := do
  match ← options.text? "name" with
  | none => .error (.invalidOptions "name" .required)
  | some name =>
    if name.toList.any Unicode.isLetterOrNumber then pure name
    else .error (.invalidOptions "name" (.noLetterOrDigit name))

/-- Fails for the first required option that is not given. -/
def checkRequired (options : RawOptions) : List String → Except Failure Unit
  | [] => .ok ()
  | field :: rest => do
    let field := RawOptions.canonicalKey field
    match ← options.text? field with
    | none => .error (.invalidOptions field .required)
    | some _ => checkRequired options rest

/-- The record that raw options stand for (`normalize`). -/
def normalize (settings : Settings) (raw : RawOptions) : Except Failure Options := do
  let options := raw.canonicalize
  let name ← nameOf options
  checkRequired options settings.required
  let path ← Destination.normalize settings.workspace
    ((← options.text? "path").getD settings.defaultPath)
  let operations ← Operation.parseList ((← options.text? "operations").getD "")
  let database ← options.choice "database" Database.none
  let messaging ← options.choice "messaging" Messaging.none
  let auth ← options.choice "auth" Auth.none
  let crud ← options.choice "crud" Crud.orm
  let skipTests ← options.switch "skip_tests"
  let flat ← options.switch "flat"
  let dryRun ← options.switch "dry_run"
  let applyMigrations ← options.switch "apply_migrations"
  let force ← options.switch "force"
  pure { name, names := .ofName name, path, database, messaging, auth, crud, operations, skipTests,
         flat, dryRun, applyMigrations, force }

end Options
end Stencil
