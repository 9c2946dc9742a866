import Stencil.Disk.Files

/-!
# Disks

A `Disk` is a tree of files with the current directory of the program that uses it. Calls fail for
reasons of structure: nothing is there, a file is where a directory is needed, or the other way
round. Besides, a disk may hold one mishap to come, by which a call fails for a reason that lies
outside; a write that it befalls leaves anything in the place of its target. Calls that undo a
change are spared.

Whatever lies at a location is a file or a directory. Symbolic links, hard links, special files and
permissions are left out, and so are other programs that change the tree between two calls.
-/
namespace Stencil

namespace Disk

/-- What a write that met a mishap leaves of its target. -/
inductive Leftover
  | untouched
  | absent
  | content (bytes : ByteArray)

/-- A failure for a reason outside the program. -/
structure Mishap where
  /-- The number of calls that it spares before. -/
  after : Nat
  leftover : Leftover
  reason : String

end Disk
open Disk

/-- A tree of files as a program meets it. -/
structure Disk where
  tree : FileTree
  /-- The current directory. -/
  here : Location
  /-- The names that a file or directory may have. -/
  admits : String → Bool
  /-- The mishap to come, if any. -/
  mishap : Option Mishap

namespace Disk

/-- The names that common file systems admit: short ones without a null character. -/
def isCommonName (name : String) : Bool :=
  decide (name.utf8ByteSize ≤ 255) && !name.toList.contains '\x00'

/-! ## Following routes -/

/-- Where a step leads from a directory. -/
def step (d : Disk) (l : Location) (s : Step) : Except Fault Location :=
  match d.tree.at? l with
  | none => .error .notFound
  | some (.file _) => .error .notADirectory
  | some .directory =>
    match s with
    | .up => .ok l.dropLast
    | .down name => if d.admits name then .ok (l ++ [name]) else .error .badName

/-- Where some steps lead. -/
def follow (d : Disk) (l : Location) : List Step → Except Fault Location
  | [] => .ok l
  | s :: rest => do d.follow (← d.step l s) rest

/-- Where a route leads. Its last step may lead to a place where nothing is. -/
def locate (d : Disk) (r : Route) : Except Fault Location :=
  d.follow (if r.absolute then [] else d.here) r.steps

/-- What is where a route leads. -/
def find (d : Disk) (r : Route) : Except Fault Entry := do
  match d.tree.at? (← d.locate r) with
  | none => .error .notFound
  | some .directory => .ok .directory
  | some (.file content) => if r.directoryOnly then .error .notADirectory else .ok (.file content)

def kind? (d : Disk) (r : Route) : Option Kind := (d.find r).toOption.map Entry.kind

def directory (d : Disk) (r : Route) : Except Fault Location := do
  let l ← d.locate r
  match d.tree.at? l with
  | none => .error .notFound
  | some (.file _) => .error .notADirectory
  | some .directory => .ok l

/-- The location of a file, or of one that can be made. -/
def target (d : Disk) (r : Route) : Except Fault Location := do
  let l ← d.locate r
  if r.directoryOnly || d.tree.isDirectory l then .error .isADirectory
  else if d.tree.Accepts l (.file .empty) then .ok l
  else .error .notFound

/-! ## Calls -/

/-- Comes one call closer to the mishap; gives it if it is due. -/
def proceed (d : Disk) : Option Mishap × Disk :=
  match d.mishap with
  | none => (none, d)
  | some m =>
    match m.after with
    | 0 => (some m, { d with mishap := none })
    | n + 1 => (none, { d with mishap := some { m with after := n } })

/-- Makes a file with these bytes, or gives them to the one that is there. -/
def store (d : Disk) (r : Route) (content : ByteArray) : Except Fault Unit × Disk :=
  match d.target r with
  | .error e => (.error e, d)
  | .ok l => (.ok (), { d with tree := d.tree.put l (.file content) })

def removeFile (d : Disk) (r : Route) : Disk :=
  match d.target r with
  | .error _ => d
  | .ok l => { d with tree := d.tree.erase l }

/-- Takes away a directory with nothing in it. -/
def removeDirectory (d : Disk) (r : Route) : Disk :=
  match d.directory r with
  | .error _ => d
  | .ok l => { d with tree := d.tree.erase l }

/-- Leaves something of a file that was to be written. -/
def leave (d : Disk) (r : Route) : Leftover → Disk
  | .untouched => d
  | .absent => d.removeFile r
  | .content bytes => (d.store r bytes).2

def read (d : Disk) (r : Route) : Except Fault ByteArray × Disk :=
  match d.proceed with
  | (some m, d) => (.error (.outside m.reason), d)
  | (none, d) =>
    match d.find r with
    | .error e => (.error e, d)
    | .ok .directory => (.error .isADirectory, d)
    | .ok (.file content) => (.ok content, d)

def write (d : Disk) (r : Route) (content : ByteArray) : Except Fault Unit × Disk :=
  match d.proceed with
  | (some m, d) => (.error (.outside m.reason), d.leave r m.leftover)
  | (none, d) => d.store r content

def createDirectory (d : Disk) (r : Route) : Except Fault Unit × Disk :=
  match d.proceed with
  | (some m, d) => (.error (.outside m.reason), d)
  | (none, d) =>
    match d.locate r with
    | .error e => (.error e, d)
    | .ok l =>
      if (d.tree.at? l).isSome then (.error .alreadyExists, d)
      else if d.tree.Accepts l .directory then
        (.ok (), { d with tree := d.tree.put l .directory })
      else (.error .notFound, d)

def children (d : Disk) (r : Route) : Except Fault (List (String × Kind)) := do
  let l ← d.directory r
  pure ((d.tree.children l).map fun (name, e) => (name, e.kind))

def below (d : Disk) (r : Route) : Except Fault (List (Location × Kind)) := do
  let l ← d.directory r
  pure ((d.tree.below l).map fun (l, e) => (l, e.kind))

instance : Files (StateM Disk) where
  kind? r := fun d => (d.kind? r, d)
  read r := fun d => d.read r
  write r content := fun d => d.write r content
  createDirectory r := fun d => d.createDirectory r
  restore r content := fun d => ((), (d.store r content).2)
  removeFile r := fun d => ((), d.removeFile r)
  removeDirectory r := fun d => ((), d.removeDirectory r)
  children r := fun d => (d.children r, d)
  below r := fun d => (d.below r, d)

end Disk
end Stencil
