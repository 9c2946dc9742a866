import Stencil.Failure
import Stencil.Disk.FileTree

/-!
# Calls to the file system

`Files` lists the calls that a run makes. A program over any monad with these calls runs on the
files of the machine as well as on a `Disk`, the value that stands for them in proofs.
-/
namespace Stencil
open Disk

/-- The calls to the file system. -/
class Files (m : Type → Type) where
  /-- What a route leads to, if to anything. -/
  kind? (route : Route) : m (Option Kind)
  /-- The bytes of a file. -/
  read (route : Route) : m (Except Fault ByteArray)
  /-- Makes a file with these bytes, or gives them to the one that is there. -/
  write (route : Route) (content : ByteArray) : m (Except Fault Unit)
  createDirectory (route : Route) : m (Except Fault Unit)
  /-- Gives a file the bytes that it had. Like the two calls below it is meant to undo a change, and
  does what it can. -/
  restore (route : Route) (content : ByteArray) : m Unit
  removeFile (route : Route) : m Unit
  removeDirectory (route : Route) : m Unit
  /-- The names in a directory, in order. -/
  children (route : Route) : m (Except Fault (List (String × Kind)))
  /-- Everything below a directory, each directory before what it holds. -/
  below (route : Route) : m (Except Fault (List (Location × Kind)))

namespace Files
variable {m : Type → Type} [Monad m] [Files m]

/-- Whether a route leads to anything. -/
def holds (route : Route) : m Bool := do pure (← kind? route).isSome

def isFile (route : Route) : m Bool := do pure ((← kind? route) == some .file)

def isDirectory (route : Route) : m Bool := do pure ((← kind? route) == some .directory)

/-- A fault of a call as a failure of the run. -/
def orFail {α : Type} (call : m (Except Fault α)) : ExceptT Failure m α :=
  ExceptT.mk do pure ((← call).mapError Failure.io)

/-- Bytes as text. -/
def decode (bytes : ByteArray) : Except Failure String :=
  match String.fromUTF8? bytes with
  | some text => .ok text
  | none => .error (.io .notText)

def readText (route : Route) : ExceptT Failure m String := do
  let bytes ← orFail (read route)
  ExceptT.mk (pure (decode bytes))

end Files
end Stencil
