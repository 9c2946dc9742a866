import Stencil.SortedMap
import Stencil.Schematic.Source

/-!
# Libraries of schematics

A library holds schematics under their names. It is loaded from a directory each of whose
directories is a schematic.
-/
namespace Stencil
open Disk

/-- Schematics under their names (`TemplateLibrary`). -/
structure Library where
  schematics : SortedMap String Schematic

namespace Library

def empty : Library := ⟨.empty⟩

/-- Adds a schematic (`TemplateLibrary.insert`); one with the same name gives way. -/
def insert (library : Library) (s : Schematic) : Library := ⟨library.schematics.insert s.name s⟩

def names (library : Library) : List String := library.schematics.keys

/-- The schematic with a name (`TemplateLibrary.get`). -/
def get (library : Library) (name : String) : Except Failure Schematic :=
  match library.schematics.get? name with
  | some s => .ok s
  | none => .error (.unknownSchematic name library.names)

variable {m : Type → Type} [Monad m] [Files m]

/-- Loads the schematics in the directories among some entries of a directory. -/
def loadAll (dir : String) (library : Library) : List (String × Kind) → ExceptT Failure m Library
  | [] => pure library
  | (name, kind) :: rest =>
    match kind with
    | .file => loadAll dir library rest
    | .directory => do
      let s ← Schematic.load name (Schematic.pathIn dir name)
      loadAll dir (library.insert s) rest

/-- Loads the library in a directory (`TemplateLibrary.load`). -/
def load (dir : String) : ExceptT Failure m Library := do
  loadAll dir empty (← Files.orFail (Files.children (Route.parse dir)))

end Library
end Stencil
