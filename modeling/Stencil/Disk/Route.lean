import Stencil.Text.Split

/-!
# Locations and routes

A location is a place in the tree of files. A route is how a path names one: a walk from the root or
from the current directory, a step for each part between slashes. Routes are followed step by
step, so `..` leads to the directory above the one that was reached.
-/
namespace Stencil.Disk

/-- A place in the tree of files: the names on the way from its root. -/
abbrev Location := List String

inductive Step
  | up
  | down (name : String)
  deriving DecidableEq, Repr

/-- The way that a path describes. -/
structure Route where
  /-- Whether it starts at the root, and not in the current directory. -/
  absolute : Bool
  steps : List Step
  /-- Whether it can lead to nothing but a directory, as it ends in a slash or a dot. -/
  directoryOnly : Bool
  deriving DecidableEq, Repr

/-- The step that a part of a path stands for; an empty one and a dot stand for none. -/
def Step.ofSegment (segment : String) : Option Step :=
  if segment = "" ∨ segment = "." then none
  else if segment = ".." then some .up
  else some (.down segment)

/-- The part of a path that stands for a step. -/
def Step.segment : Step → String
  | .up => ".."
  | .down name => name

namespace Route

def parse (path : String) : Route :=
  let segments := Text.split '/' path
  { absolute := path.toList.head? = some '/'
    steps := segments.filterMap Step.ofSegment
    directoryOnly := segments.getLast? = some "" || segments.getLast? = some "." }

/-- A route followed by another; one that starts at the root stands for itself. -/
def append (r next : Route) : Route :=
  if next.absolute then next
  else { next with absolute := r.absolute, steps := r.steps ++ next.steps }

/-- A route followed by that of a path. -/
def join (r : Route) (path : String) : Route := r.append (parse path)

/-- The beginnings of a list that are neither empty nor the whole, the shortest first. -/
def properFronts {α : Type} : List α → List (List α)
  | [] => []
  | [_] => []
  | x :: y :: rest => [x] :: (properFronts (y :: rest)).map (x :: ·)

/-- The routes to the places on the way, the first one first. -/
def ancestors (r : Route) : List Route :=
  (properFronts r.steps).map fun steps => { r with steps, directoryOnly := false }

/-- A path with this route. -/
def text (r : Route) : String :=
  let steps := "/".intercalate (r.steps.map Step.segment)
  if r.absolute then "/" ++ steps ++ (if r.directoryOnly && !r.steps.isEmpty then "/" else "")
  else if r.steps.isEmpty then "."
  else steps ++ (if r.directoryOnly then "/" else "")

end Route
end Stencil.Disk
