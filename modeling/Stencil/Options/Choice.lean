import Stencil.Failure
import Stencil.Unicode.CaseMapping
import Stencil.Text.Split

/-!
# Options with a fixed set of values

Four options and the list of operations take their values from a fixed set. Each value has one
spelling; `Choice.parse` reads it in any letter case and with blanks around it.
-/
namespace Stencil

/-- A type whose values are the possible values of an option. -/
class Choice (α : Type) where
  /-- The option that errors name. -/
  option : String
  /-- Every value, in the order in which errors list them. -/
  all : List α
  /-- The spelling of a value. -/
  text : α → String

/-- A text as values are compared with it: without blanks around it and in small letters. -/
def plainWord (s : String) : String := Unicode.toLower (Text.trim s)

/-- Reads a value (`from_str`). -/
def Choice.parse {α : Type} [Choice α] (s : String) : Except Failure α :=
  match (all : List α).find? fun v => text v == plainWord s with
  | some v => .ok v
  | none =>
    .error (.invalidOptions (option α) (.unknownValue (plainWord s) ((all : List α).map text)))

/-- The database that the generated module keeps its data in. -/
inductive Database
  | oracle | mssql | mongodb | none
  deriving DecidableEq, Repr, Inhabited

/-- The part that the generated module takes in messaging. -/
inductive Messaging
  | none | producer | consumer | both
  deriving DecidableEq, Repr, Inhabited

/-- How the generated module identifies its users. -/
inductive Auth
  | none | jwt | oauth2
  deriving DecidableEq, Repr, Inhabited

/-- How the generated module talks to its database. -/
inductive Crud
  | storedProc | orm | mixed
  deriving DecidableEq, Repr, Inhabited

/-- An operation that the generated module offers. -/
inductive Operation
  | select | insert | update | delete
  deriving DecidableEq, Repr, Inhabited

def Database.text : Database → String
  | .oracle => "oracle" | .mssql => "mssql" | .mongodb => "mongodb" | .none => "none"

def Messaging.text : Messaging → String
  | .none => "none" | .producer => "producer" | .consumer => "consumer" | .both => "both"

def Auth.text : Auth → String
  | .none => "none" | .jwt => "jwt" | .oauth2 => "oauth2"

def Crud.text : Crud → String
  | .storedProc => "stored-proc" | .orm => "orm" | .mixed => "mixed"

def Operation.text : Operation → String
  | .select => "select" | .insert => "insert" | .update => "update" | .delete => "delete"

def Operation.all : List Operation := [.select, .insert, .update, .delete]

instance : Choice Database := ⟨"database", [.oracle, .mssql, .mongodb, .none], Database.text⟩
instance : Choice Messaging := ⟨"messaging", [.none, .producer, .consumer, .both], Messaging.text⟩
instance : Choice Auth := ⟨"auth", [.none, .jwt, .oauth2], Auth.text⟩
instance : Choice Crud := ⟨"crud", [.storedProc, .orm, .mixed], Crud.text⟩
instance : Choice Operation := ⟨"operations", Operation.all, Operation.text⟩

/-- The operations that are in a list, in declaration order and each once. -/
def Operation.collect (named : List Operation) : List Operation :=
  Operation.all.filter named.contains

/-- Reads a comma separated list of operations as a set (`parse_operations`). Blank pieces are
passed over, and a list that names none means all. -/
def Operation.parseList (list : String) : Except Failure (List Operation) := do
  let pieces := ((Text.split ',' list).map Text.trim).filter (· ≠ "")
  let named ← pieces.mapM Choice.parse
  pure (if named.isEmpty then Operation.all else Operation.collect named)

/-- A switch that is on or off. -/
inductive Flag
  | skipTests | flat | dryRun | applyMigrations | force
  deriving DecidableEq, Repr, Inhabited

def Flag.text : Flag → String
  | .skipTests => "skip_tests"
  | .flat => "flat"
  | .dryRun => "dry_run"
  | .applyMigrations => "apply_migrations"
  | .force => "force"

def Flag.all : List Flag := [.skipTests, .flat, .dryRun, .applyMigrations, .force]

/-- Whether the switch changes how a run lays out or writes its files, never which files there are
(`Flag.is_run_mode`). -/
def Flag.isRunMode : Flag → Bool
  | .flat | .dryRun | .force => true
  | .skipTests | .applyMigrations => false

end Stencil
