import Stencil.CommandLine.Reader
import Stencil.Generator

/-!
# Carrying out a command line

A run loads the library, puts the options together and generates. It tells on the standard output
what it wrote or would write, and on the error output what went wrong.
-/
namespace Stencil.CommandLine
open Disk

/-- What a program prints, and the code with which it ends. -/
structure Outcome where
  exitCode : Nat
  stdout : String
  stderr : String
  deriving DecidableEq, Repr

def Outcome.ofFailure (e : Failure) : Outcome := ⟨1, "", e.message ++ "\n"⟩

/-- What a dry run prints about a path. -/
def writeText (w : PlannedWrite) : String :=
  w.action.text ++ " " ++ w.path ++ " (" ++ toString w.bytes ++ " bytes)\n"
    ++ if w.action = .overwrite then w.diff.getD "" else ""

/-- The outcome of a dry run (`print_preview`). -/
def Outcome.ofPreview (p : Preview) : Outcome :=
  let conflicts := if p.conflicts.isEmpty then [] else [Failure.destinationConflict p.conflicts]
  { exitCode := 0
    stdout := String.join (p.writes.map writeText) ++ "Dry run: nothing was written.\n"
    stderr := String.join ((p.failures ++ conflicts).map fun e => e.message ++ "\n") }

/-- The outcome of a run that wrote its files. -/
def Outcome.ofReport (workspace : String) (r : CommitReport) : Outcome :=
  { exitCode := 0
    stdout :=
      String.join (r.created.map fun path => "CREATE: '" ++ path ++ "'\n")
        ++ String.join (r.overwritten.map fun path => "OVERWRITE: '" ++ path ++ "'\n")
        ++ "Generation completed successfully: " ++ toString r.written ++ " files in "
        ++ workspace ++ ".\n"
    stderr := "" }

variable {m : Type → Type} [Monad m] [Files m]

/-- Generates what a command line asks for, with the bytes of the standard input. -/
def generate (currentDirectory templates : String) (input : ByteArray) (a : Arguments) :
    ExceptT Failure m Generation := do
  let library ← Library.load templates
  let raw ← ExceptT.mk (pure (a.options (Files.decode input)))
  (Generator.ofLibrary library ⟨a.workspace, currentDirectory⟩).generate a.schematic raw

/-- Carries out a command line (`run`). Without a directory of templates on it, `templates` is one.
-/
def run (currentDirectory templates : String) (input : ByteArray) (a : Arguments) : m Outcome := do
  match ← (generate currentDirectory (a.templates.getD templates) input a).run with
  | .error e => pure (.ofFailure e)
  | .ok (.preview p) => pure (.ofPreview p)
  | .ok (.committed r) => pure (.ofReport a.workspace r)

end Stencil.CommandLine
