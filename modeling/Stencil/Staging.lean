import Stencil.Layout
import Stencil.SortedMap

/-!
# Staged files

The output of a run before any of it is written: a content for each path, in the order of the
paths. No path is staged twice.
-/
namespace Stencil

/-- Staged files, in the order of their paths (`StagingTree`). -/
structure Staging where
  files : SortedMap String String

namespace Staging

def empty : Staging := ⟨.empty⟩

/-- The staged paths and contents, in order. -/
def entries (s : Staging) : List (String × String) := s.files.toList

def get? (s : Staging) (path : String) : Option String := s.files.get? path

def contains (s : Staging) (path : String) : Bool := s.files.contains path

def paths (s : Staging) : List String := s.files.keys

def size (s : Staging) : Nat := s.files.size

/-- Stages a file (`StagingTree.insert`); fails if one is staged under its path. -/
def insert (s : Staging) (path content : String) : Except Failure Staging :=
  if s.contains path then .error (.duplicatePath path) else .ok ⟨s.files.insert path content⟩

def insertAll (s : Staging) : List OutputFile → Except Failure Staging
  | [] => .ok s
  | f :: rest => do (← s.insert f.path f.content).insertAll rest

/-- Stages files, failing at the first path that repeats (`StagingTree.from_files`). -/
def ofFiles (files : List OutputFile) : Except Failure Staging := empty.insertAll files

end Staging
end Stencil
