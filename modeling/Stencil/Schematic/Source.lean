import Stencil.Schematic.Node
import Stencil.Disk.Files

/-!
# Schematics in directories

The directory of a schematic holds its manifest and, in `files`, the tree of its templates. A node
takes the conditions of all rules that cover its path. What an ignore pattern covers is no node, and
neither is anything below it.
-/
namespace Stencil
open Disk

/-- What files are generated from. -/
structure Schematic where
  name : String
  manifest : Manifest
  nodes : List Node

namespace Schematic

/-- The path of something in a directory. -/
def pathIn (dir name : String) : String :=
  if dir = "" ∨ dir.toList.getLast? = some '/' then dir ++ name else dir ++ "/" ++ name

/-- The name of the directory of templates (`FILES_DIR`). -/
def filesName : String := "files"

/-- The conditions of all rules that cover a path, rule after rule
(`DirectorySource.conditions_for`). -/
def conditionsFor (rules : List CompiledRule) (path : String) : List Condition :=
  (rules.filter (·.covers path)).flatMap (·.conditions)

/-- The path of a location below the templates (`relative_path`). -/
def pathOf (l : Location) : String := "/".intercalate l

/-- Whether no pattern covers a location or a directory above it. -/
def isShown (ignored : Glob.PatternSet) (l : Location) : Bool :=
  (Route.properFronts l ++ [l]).all fun front => !ignored.covers (pathOf front)

variable {m : Type → Type} [Monad m] [Files m]

/-- Reads the first manifest that a directory holds (`Manifest.load`). -/
def readManifest (dir : String) : List String → ExceptT Failure m Manifest
  | [] => throw (.manifest dir (.notFound Manifest.fileNames))
  | name :: rest => do
    let path := pathIn dir name
    if ← ExceptT.lift (Files.holds (Route.parse path)) then
      let text ← Files.readText (Route.parse path)
      ExceptT.mk (pure (Manifest.parse path text))
    else readManifest dir rest

/-- The nodes at some locations below a directory of templates (`DirectorySource.list_nodes`). -/
def readNodes (files : Route) (rules : List CompiledRule) :
    List (Location × Kind) → ExceptT Failure m (List Node)
  | [] => pure []
  | (l, kind) :: rest => do
    let path := pathOf l
    let content ← match kind with
      | .directory => pure none
      | .file => do pure (some (← Files.readText (files.join path)))
    let more ← readNodes files rules rest
    pure ({ path, content, conditions := conditionsFor rules path } :: more)

/-- Loads the schematic in a directory (`Schematic.load`). -/
def load (name dir : String) : ExceptT Failure m Schematic := do
  let manifest ← readManifest dir Manifest.fileNames
  let rules ← ExceptT.mk (pure (manifest.compile dir))
  let ignored ← ExceptT.mk (pure (Manifest.ignorePatterns dir manifest.ignored))
  let files := pathIn dir filesName
  unless ← ExceptT.lift (Files.isDirectory (Route.parse files)) do
    throw (.manifest files .noTemplates)
  let places ← Files.orFail (Files.below (Route.parse files))
  let nodes ← readNodes (Route.parse files) rules (places.filter fun p => isShown ignored p.1)
  pure { name, manifest, nodes }

end Schematic
end Stencil
