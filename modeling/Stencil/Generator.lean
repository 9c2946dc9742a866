import Stencil.Plan
import Stencil.Schematic.Library

/-!
# Generation runs

A run takes a schematic and raw options. It normalizes the options, selects the nodes, renders
them, and places and stages the result. Then it shows what a commit would do, if the run is a dry
one, or else commits.
-/
namespace Stencil
open Disk

/-- Makes files from the schematics of a library (`Engine`). -/
structure Generator where
  library : Library
  workspace : Workspace
  renderer : Template.Renderer

/-- A run up to its staged files. -/
structure Staged where
  options : Options
  files : Staging
  /-- Why other files did not render. -/
  failures : List Failure

/-- What a dry run tells. -/
structure Preview where
  options : Options
  files : Staging
  writes : List PlannedWrite
  /-- The paths for which a commit would not be carried out. -/
  conflicts : List String
  /-- Why other files did not render. -/
  failures : List Failure

inductive Generation
  | preview (preview : Preview)
  | committed (report : CommitReport)

namespace Generator

/-- The generator that evaluates the expressions in templates. -/
def ofLibrary (library : Library) (workspace : Workspace) : Generator :=
  { library, workspace, renderer := Template.render }

def root (g : Generator) : Route := Route.parse g.workspace.root

/-- What a schematic asks of the options. -/
def settings (g : Generator) (s : Schematic) : Options.Settings :=
  { required := s.manifest.required
    defaultPath := s.manifest.defaultPath
    workspace := some g.workspace }

/-- Stages the output of some nodes. -/
def stageNodes (renderer : Template.Renderer) (nodes : List Node) (o : Options) :
    Except Failure Staged := do
  let (rendered, failures) := Node.renderAll renderer (.ofOptions o) (Node.select nodes o)
  let placed ← Layout.place o rendered
  let files ← Staging.ofFiles placed
  pure { options := o, files, failures }

/-- A run up to its staged files (`Engine.stage`); no file is touched. -/
def stage (g : Generator) (schematic : String) (raw : RawOptions) : Except Failure Staged := do
  let s ← g.library.get schematic
  let o ← Options.normalize (g.settings s) raw
  stageNodes g.renderer s.nodes o

/-- A planned write, as a conflict if its path is among some. -/
def markConflict (conflicts : List String) (w : PlannedWrite) : PlannedWrite :=
  if conflicts.contains w.path then { w with action := .conflict } else w

variable {m : Type → Type} [Monad m] [Files m]

/-- What a commit would do (`Engine.preview`). -/
def preview (g : Generator) (s : Staged) : ExceptT Failure m Preview := do
  let conflicts ← ExceptT.lift (Commit.conflicts g.root s.options.force s.files)
  let writes ← s.files.plan g.root
  pure { options := s.options, files := s.files
         writes := writes.map (markConflict conflicts), conflicts, failures := s.failures }

/-- Writes what is staged (`Engine.commit`). If a file did not render, nothing is written. -/
def commit (g : Generator) (s : Staged) : ExceptT Failure m CommitReport :=
  match s.failures with
  | e :: _ => throw e
  | [] => ExceptT.mk (Commit.run g.root s.options.force s.files)

/-- A whole run (`Engine.generate`). -/
def generate (g : Generator) (schematic : String) (raw : RawOptions) :
    ExceptT Failure m Generation := do
  let s ← ExceptT.mk (pure (g.stage schematic raw))
  if s.options.dryRun then pure (.preview (← g.preview s))
  else pure (.committed (← g.commit s))

end Generator
end Stencil
