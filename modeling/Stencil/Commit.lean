import Stencil.Staging
import Stencil.Disk.Files

/-!
# Writing staged files

A commit writes all staged files below a root, or changes nothing. It first looks for conflicts:
paths that are occupied. Then it writes file after file and keeps a journal; when a call fails it
undoes what the journal holds.
-/
namespace Stencil
open Disk

/-- What a commit wrote. -/
structure CommitReport where
  /-- The files that were not there before. -/
  created : List String
  overwritten : List String
  deriving DecidableEq, Repr

def CommitReport.written (r : CommitReport) : Nat := r.created.length + r.overwritten.length

/-- What a commit has changed so far, the latest change first. -/
structure Journal where
  directories : List Route
  created : List Route
  /-- Files with the bytes that they had. -/
  overwritten : List (Route × ByteArray)

namespace Commit
variable {m : Type → Type} [Monad m] [Files m]

/-! ## Conflicts -/

/-- Whether one of some routes leads to a file. -/
def anyFile : List Route → m Bool
  | [] => pure false
  | r :: rest => do if ← Files.isFile r then pure true else anyFile rest

/-- The routes to the places between the root and a path. -/
def between (root : Route) (path : String) : List Route :=
  (Route.parse path).ancestors.map root.append

/-- Whether a path cannot be written: a file is where it needs a directory, a directory is in its
place, or there is a file that must not be replaced. -/
def isConflict (root : Route) (force : Bool) (path : String) : m Bool := do
  if ← anyFile (between root path) then pure true
  else if ← Files.isDirectory (root.join path) then pure true
  else if force then pure false
  else Files.holds (root.join path)

/-- Those of some paths that cannot be written. -/
def conflictsAmong (root : Route) (force : Bool) : List String → m (List String)
  | [] => pure []
  | path :: rest => do
    let conflict ← isConflict root force path
    let more ← conflictsAmong root force rest
    pure (if conflict then path :: more else more)

/-- The staged paths that cannot be written (`Committer.conflicts`). -/
def conflicts (root : Route) (force : Bool) (s : Staging) : m (List String) :=
  conflictsAmong root force s.paths

/-! ## Writing -/

/-- Those of some directories, the deepest first, that come before the first one that is there. -/
def missing : List Route → m (List Route)
  | [] => pure []
  | dir :: rest => do
    if ← Files.holds dir then pure [] else pure (dir :: (← missing rest))

/-- Makes directories. One that is there by now is not the commit's own. -/
def createDirectories (j : Journal) : List Route → m (Journal × Except Fault Unit)
  | [] => pure (j, .ok ())
  | dir :: rest => do
    match ← Files.createDirectory dir with
    | .ok () => createDirectories { j with directories := dir :: j.directories } rest
    | .error fault =>
      if fault = .alreadyExists then
        if ← Files.isDirectory dir then createDirectories j rest else pure (j, .error fault)
      else pure (j, .error fault)

/-- Whether a file was there before it was written. -/
inductive Written
  | created
  | overwritten
  deriving DecidableEq, Repr

/-- Writes a file, with the directories that it needs (`Committer.write`). -/
def writeFile (target : Route) (content : String) (j : Journal) :
    m (Journal × Except Fault Written) := do
  let dirs ← missing target.ancestors.reverse
  match ← createDirectories j dirs.reverse with
  | (j, .error fault) => pure (j, .error fault)
  | (j, .ok ()) =>
    if ← Files.holds target then
      match ← Files.read target with
      | .error fault => pure (j, .error fault)
      | .ok old =>
        let j := { j with overwritten := (target, old) :: j.overwritten }
        match ← Files.write target content.toUTF8 with
        | .error fault => pure (j, .error fault)
        | .ok () => pure (j, .ok .overwritten)
    else
      let j := { j with created := target :: j.created }
      match ← Files.write target content.toUTF8 with
      | .error fault => pure (j, .error fault)
      | .ok () => pure (j, .ok .created)

/-- Adds a path to the front of a report. -/
def addTo (r : CommitReport) (path : String) : Written → CommitReport
  | .created => { r with created := path :: r.created }
  | .overwritten => { r with overwritten := path :: r.overwritten }

def writeAll (root : Route) (j : Journal) :
    List (String × String) → m (Journal × Except Fault CommitReport)
  | [] => pure (j, .ok ⟨[], []⟩)
  | (path, content) :: rest => do
    match ← writeFile (root.join path) content j with
    | (j, .error fault) => pure (j, .error fault)
    | (j, .ok written) =>
      match ← writeAll root j rest with
      | (j, .error fault) => pure (j, .error fault)
      | (j, .ok report) => pure (j, .ok (addTo report path written))

/-- Gives files the bytes that they had. -/
def restoreAll : List (Route × ByteArray) → m Unit
  | [] => pure ()
  | (r, content) :: rest => do
    Files.restore r content
    restoreAll rest

def removeFiles : List Route → m Unit
  | [] => pure ()
  | r :: rest => do
    Files.removeFile r
    removeFiles rest

def removeDirectories : List Route → m Unit
  | [] => pure ()
  | r :: rest => do
    Files.removeDirectory r
    removeDirectories rest

/-- Undoes what a journal holds (`Journal.rollback`). -/
def undo (j : Journal) : m Unit := do
  restoreAll j.overwritten
  removeFiles j.created
  removeDirectories j.directories

/-- Writes all staged files, or changes nothing (`Committer.commit_locked`). -/
def run (root : Route) (force : Bool) (s : Staging) : m (Except Failure CommitReport) := do
  let occupied ← conflicts root force s
  if occupied.isEmpty then
    match ← writeAll root ⟨[], [], []⟩ s.entries with
    | (_, .ok report) => pure (.ok report)
    | (j, .error fault) => do
      undo j
      pure (.error (.io fault))
  else pure (.error (.destinationConflict occupied))

end Commit
end Stencil
