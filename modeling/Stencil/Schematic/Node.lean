import Stencil.Manifest.Reader
import Stencil.Template.Render

/-!
# Template nodes

A schematic holds a tree of nodes, each a file with its template text or a directory, under paths
with slashes. Every node has conditions. `select` takes the files that belong to the output:
those whose own conditions hold and those of every directory above them.
-/
namespace Stencil

/-- A file or directory of a schematic (`TemplateNode`). -/
structure Node where
  path : String
  /-- The template text of a file; a directory has none. -/
  content : Option String
  conditions : List Condition
  deriving DecidableEq, Repr

namespace Node

def isFile (n : Node) : Bool := n.content.isSome

/-- The parts of a path before each of its slashes, the shortest first. `before` is what stands
before the text in reverse. -/
def beforeSlashes (before : List Char) : List Char → List (List Char)
  | [] => []
  | c :: rest =>
    if c = '/' then before.reverse :: beforeSlashes (c :: before) rest
    else beforeSlashes (c :: before) rest

/-- The paths of the directories above a path, the outermost first (`ancestors`). -/
def ancestors (path : String) : List String :=
  (beforeSlashes [] path.toList).map String.ofList

/-- The conditions of the directory at a path: those of the last node that names it. -/
def directoryConditions (nodes : List Node) (path : String) : List Condition :=
  match nodes.reverse.find? fun n => !n.isFile && n.path == path with
  | some n => n.conditions
  | none => []

def isSelected (nodes : List Node) (o : Options) (n : Node) : Bool :=
  n.isFile && ((ancestors n.path).all fun dir =>
    Condition.allHold (directoryConditions nodes dir) o) && Condition.allHold n.conditions o

/-- The files that belong to the output, in the order of their paths (`select`). -/
def select (nodes : List Node) (o : Options) : List Node :=
  (nodes.filter (isSelected nodes o)).mergeSort fun a b => decide (a.path ≤ b.path)

end Node

/-- A file whose path and content are rendered (`RenderedTemplate`). -/
structure Rendered where
  /-- The path of the node. -/
  template : String
  /-- The rendered path, within the schematic. -/
  path : String
  content : String
  deriving DecidableEq, Repr

/-- The rendered path and content of a file. -/
def Node.render (renderer : Template.Renderer) (c : Template.Context) (n : Node)
    (content : String) : Except Failure Rendered := do
  let path ← renderer n.path n.path c
  let content ← renderer n.path content c
  pure { template := n.path, path, content }

/-- The files that render, and the failures of those that do not, both in the order of the nodes
(`render_nodes`). Directories are passed over. -/
def Node.renderAll (renderer : Template.Renderer) (c : Template.Context) :
    List Node → List Rendered × List Failure
  | [] => ([], [])
  | n :: rest =>
    let (done, failures) := renderAll renderer c rest
    match n.content with
    | none => (done, failures)
    | some content =>
      match n.render renderer c content with
      | .ok r => (r :: done, failures)
      | .error e => (done, e :: failures)

end Stencil
