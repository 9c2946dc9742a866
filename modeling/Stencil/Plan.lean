import Stencil.Commit
import Stencil.Diff.Unified

/-!
# What a commit would do

A plan tells for each staged file what a commit that replaces files would do with it. For a file
that would get other content it holds the difference.
-/
namespace Stencil
open Disk

/-- What a commit would do with a path. -/
inductive WriteAction
  | create
  | overwrite
  | unchanged
  /-- The commit would not be carried out. -/
  | conflict
  deriving DecidableEq, Repr

def WriteAction.text : WriteAction → String
  | .create => "CREATE"
  | .overwrite => "OVERWRITE"
  | .unchanged => "UNCHANGED"
  | .conflict => "CONFLICT"

structure PlannedWrite where
  path : String
  action : WriteAction
  /-- The length of the new content in bytes. -/
  bytes : Nat
  /-- The difference to the file that is there. -/
  diff : Option String
  deriving DecidableEq, Repr

namespace PlannedWrite
variable {m : Type → Type} [Monad m] [Files m]

/-- What the file at a path becomes. -/
def ofTexts (path old new : String) : PlannedWrite :=
  if old = new then ⟨path, .unchanged, new.utf8ByteSize, none⟩
  else
    ⟨path, .overwrite, new.utf8ByteSize, some (Diff.unified ("a/" ++ path) ("b/" ++ path) old new)⟩

/-- What becomes of a path. A file that is there must be a text. -/
def ofFile (root : Route) (path content : String) : ExceptT Failure m PlannedWrite := do
  if ← ExceptT.lift (Files.isFile (root.join path)) then
    pure (ofTexts path (← Files.readText (root.join path)) content)
  else pure ⟨path, .create, content.utf8ByteSize, none⟩

def ofFiles (root : Route) : List (String × String) → ExceptT Failure m (List PlannedWrite)
  | [] => pure []
  | (path, content) :: rest => do
    let write ← ofFile root path content
    let more ← ofFiles root rest
    pure (write :: more)

end PlannedWrite

/-- What a commit below a root would do (`StagingTree.plan`). -/
def Staging.plan {m : Type → Type} [Monad m] [Files m] (s : Staging) (root : Route) :
    ExceptT Failure m (List PlannedWrite) :=
  PlannedWrite.ofFiles root s.entries

end Stencil
