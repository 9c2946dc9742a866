import Stencil.Failure
import Stencil.Text.Lossy
import Stencil.Text.Split

/-!
# Destinations

A destination is a place in the workspace: the names of the directories on the way from the
workspace root, joined by slashes, and the empty text for the root itself. `normalize` reads one
from a text a user wrote, with backslashes for slashes, with `.` and `..`, or as an absolute path.

The path of a workspace is bytes, as the operating system has it, and need not be a text. An
absolute destination is compared with the text that is read of it (`normalizeAt`).
-/
namespace Stencil

/-- A part of a path between slashes. -/
abbrev Segment := List Char

/-- A path as the operating system has it: bytes, which need not be those of a text. -/
abbrev NativePath := List UInt8

/-- Where files are generated: the root as the user names it, and the directory in which a relative
root lies. -/
structure Workspace where
  root : String
  currentDirectory : String
  deriving DecidableEq, Repr

/-- Where files are generated, as the operating system has it. -/
structure NativeWorkspace where
  root : NativePath
  currentDirectory : NativePath
  deriving DecidableEq, Repr

/-- The paths of a workspace as the operating system has them. -/
def Workspace.native (w : Workspace) : NativeWorkspace where
  root := Text.encode w.root.toList
  currentDirectory := Text.encode w.currentDirectory.toList

namespace Destination

/-! ## Paths of characters and of bytes -/

section Folding
variable {α : Type} [DecidableEq α]

/-- Whether a segment stands for no step at all. -/
def isIdle (dot : α) (segment : List α) : Bool := segment = [] || segment = [dot]

/-- Follows the segments from the root of the file system, where `..` stays put. -/
def foldRooted (dot : α) (done : List (List α)) : List (List α) → List (List α)
  | [] => done
  | s :: rest =>
    if isIdle dot s then foldRooted dot done rest
    else if s = [dot, dot] then foldRooted dot done.dropLast rest
    else foldRooted dot (done ++ [s]) rest

/-- The absolute path of `root`, which lies in `currentDirectory` if it is relative, with `.` and
`..` folded by their text alone. -/
def absolute (slash dot : α) (root currentDirectory : List α) : List α :=
  let path := if root.head? = some slash then root else currentDirectory ++ slash :: root
  slash :: Text.join [slash] (foldRooted dot [] (Text.splitAt slash path))

end Folding

/-- The absolute path of a workspace root (`absolute_root`). -/
def absoluteBytes (w : NativeWorkspace) : NativePath :=
  absolute '/'.toUInt8 '.'.toUInt8 w.root w.currentDirectory

/-! ## Reading a destination -/

/-- A text with its backslashes as slashes. -/
def unify (cs : List Char) : List Char := cs.map fun c => if c = '\\' then '/' else c

/-- Whether a path starts at the root of the file system. -/
def isAbsolute (path : List Char) : Bool := path.head? = some '/'

/-- Follows the segments from a directory that `..` must not leave. -/
def foldInside (done : List Segment) : List Segment → Option (List Segment)
  | [] => some done
  | s :: rest =>
    if isIdle '.' s then foldInside done rest
    else if s = ['.', '.'] then
      if done.isEmpty then none else foldInside done.dropLast rest
    else foldInside (done ++ [s]) rest

/-- What an absolute path names relative to the root, if it starts with the root's path. -/
def relativeTo (root path : List Char) : Option (List Char) :=
  match Text.afterStart (Text.dropEndWhile (· = '/') (unify root)) path with
  | some [] => some []
  | some ('/' :: rest) => some (rest.dropWhile (· = '/'))
  | _ => none

/-- Normalizes a destination (`normalize_destination`). An absolute one must start with the root of
the workspace, read as a text, and `..` must not climb above it. -/
def normalizeAt (workspace : Option NativeWorkspace) (raw : String) : Except Failure String :=
  let path := unify (Text.stripWhile Unicode.isBlank raw.toList)
  let relative :=
    if isAbsolute path then
      workspace.bind fun w => relativeTo (Text.lossy (absoluteBytes w)) path
    else some path
  match relative.bind fun path => foldInside [] (Text.splitAt '/' path) with
  | some segments => .ok (String.ofList (Text.join ['/'] segments))
  | none => .error (.pathEscape raw)

/-- Normalizes a destination in a workspace whose paths are texts. -/
def normalize (workspace : Option Workspace) (raw : String) : Except Failure String :=
  normalizeAt (workspace.map Workspace.native) raw

end Destination
end Stencil
