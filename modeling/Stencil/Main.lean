import Stencil.CommandLine.Run

/-!
# The program

The calls to the files of the machine, and the program that carries out its command line with them.
-/
namespace Stencil.Main
open Disk

/-- The cause of an error that a call reports. -/
def faultOf : IO.Error → Fault
  | .alreadyExists .. => .alreadyExists
  | .noFileOrDirectory .. => .notFound
  | e => .outside (toString e)

/-- Makes a call and gives its error as a value. -/
def attempt {α : Type} (call : IO α) : IO (Except Fault α) := do
  try pure (.ok (← call)) catch e => pure (.error (faultOf e))

/-- Makes a call and passes over its error. -/
def perhaps (call : IO Unit) : IO Unit := do
  try call catch _ => pure ()

/-- A text as a path of the machine. A directory entry with an empty file name holds it, and only
its `root` is used. -/
def place (path : String) : IO.FS.DirEntry := { root := path, fileName := "" }

/-- What is at a path, if it is a file or a directory. -/
def kindAt (path : String) : IO (Option Kind) := do
  try
    match (← (place path).root.metadata).type with
    | .dir => pure (some .directory)
    | _ => pure (some .file)
  catch _ => pure none

def namesIn (path : String) : IO (List (String × Kind)) := do
  let entries ← (place path).root.readDir
  let names := entries.toList.map fun e => e.fileName
  (names.mergeSort fun a b => decide (a ≤ b)).filterMapM fun name => do
    pure ((← kindAt (path ++ "/" ++ name)).map fun kind => (name, kind))

/-- Everything below a directory, each directory before what it holds. -/
partial def everythingIn (path : String) (above : Location) : IO (List (Location × Kind)) := do
  let mut found := []
  for (name, kind) in ← namesIn path do
    let l := above ++ [name]
    found := found ++ [(l, kind)]
    if kind = .directory then
      found := found ++ (← everythingIn (path ++ "/" ++ name) l)
  pure found

instance : Files IO where
  kind? r := kindAt r.text
  read r := attempt (IO.FS.readBinFile r.text)
  write r content := attempt (IO.FS.writeBinFile r.text content)
  createDirectory r := attempt (IO.FS.createDir r.text)
  restore r content := perhaps (IO.FS.writeBinFile r.text content)
  removeFile r := perhaps (IO.FS.removeFile r.text)
  removeDirectory r := perhaps (IO.FS.removeDir r.text)
  children r := attempt (namesIn r.text)
  below r := attempt (everythingIn r.text [])

partial def readInput (stream : IO.FS.Stream) (before : ByteArray) : IO ByteArray := do
  let bytes ← stream.read 65536
  if bytes.isEmpty then pure before else readInput stream (before ++ bytes)

def execute (args : List String) : IO UInt32 := do
  match CommandLine.Arguments.read args with
  | .error e =>
    if e.exitCode = 0 then IO.println e.message else IO.eprintln ("error: " ++ e.message)
    pure (UInt32.ofNat e.exitCode)
  | .ok a =>
    let input ← if a.stdin then readInput (← IO.getStdin) .empty else pure .empty
    let outcome ← CommandLine.run (toString (← IO.currentDir)) "templates" input a
    IO.print outcome.stdout
    IO.eprint outcome.stderr
    pure (UInt32.ofNat outcome.exitCode)

end Stencil.Main

/-- The program: carries out its command line. -/
def main (args : List String) : IO UInt32 := Stencil.Main.execute args
