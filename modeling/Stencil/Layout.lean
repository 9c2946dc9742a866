import Stencil.Schematic.Node

/-!
# Where rendered files go

A rendered path is taken apart at its slashes. In each segment the name token is replaced once, the
last one loses the mark of a template, and the destination is put in front. The flat layout keeps,
of the directories, only those up to the first whose segment holds the name token.
-/
namespace Stencil

/-- A file and where it goes (`RenderedFile`). -/
structure OutputFile where
  /-- The path below the workspace root. -/
  path : String
  content : String
  /-- The path of the node it comes from. -/
  template : String
  deriving DecidableEq, Repr

namespace Layout

/-- The text in paths that stands for the name (`NAME_TOKEN`). -/
def nameToken : List Char := "__name__".toList

/-- The ending of template files (`TEMPLATE_SUFFIX`). -/
def templateEnding : List Char := ".j2".toList

/-- Whether a file name has the ending of templates behind another ending (`is_template_file`). -/
def isTemplateName (name : Segment) : Bool :=
  (Text.splitAt '.' name).length > 2 && Text.endsWith templateEnding name

/-- Whether a segment names a place in its directory. -/
def isPlainSegment (s : Segment) : Bool := s ≠ [] && s ≠ ['.'] && s ≠ ['.', '.']

/-- Whether a path names a place below the root (`is_rendered_path_valid`). -/
def isValidPath (path : List Char) : Bool :=
  !path.isEmpty && (Text.splitAt '/' path).all isPlainSegment

/-- A file name without the ending of templates. -/
def stripEnding (name : Segment) : Segment :=
  if isTemplateName name then name.take (name.length - templateEnding.length) else name

/-- Applies `f` to the last item of a list. -/
def mapLast {α : Type} (f : α → α) : List α → List α
  | [] => []
  | [x] => [f x]
  | x :: y :: rest => x :: mapLast f (y :: rest)

/-- The segments of a rendered path with the name in place of its token and without the ending of
templates, and how many directories a flat layout keeps (`substitute`). -/
def substitute (path : List Char) (dashName : List Char) :
    Except Failure (List Segment × Nat) :=
  if !isValidPath path then .error (.pathEscape (String.ofList path))
  else
    let raw := Text.splitAt '/' path
    let kept := match raw.dropLast.findIdx? (Text.occursIn nameToken) with
      | some i => i + 1
      | none => 0
    let segments := mapLast stripEnding (raw.map (Text.replaceFirst nameToken dashName))
    let joined := Text.join ['/'] segments
    if isValidPath joined then .ok (segments, kept)
    else .error (.pathEscape (String.ofList joined))

/-- A path below the destination (`with_destination`). -/
def below (destination : String) (segments : List Segment) : String :=
  let relative := String.ofList (Text.join ['/'] segments)
  if destination = "" then relative else destination ++ "/" ++ relative

/-- A path in the layout of the run, and in the nested layout. -/
structure Place where
  final : String
  nested : String
  deriving DecidableEq, Repr

/-- Where a rendered path goes (`resolve_path`). -/
def resolve (o : Options) (path : String) : Except Failure Place := do
  let (segments, kept) ← substitute path.toList o.names.dash.toList
  let nested := below o.path segments
  if o.flat then
    let flat := segments.take kept ++ segments.getLast?.toList
    pure { final := below o.path flat, nested }
  else pure { final := nested, nested }

/-- What the flat layout has seen under a path: the template, and its nested path. -/
abbrev Seen := List (String × String × String)

/-- Places files one after another. In the flat layout two files with different nested paths must
not come to one path; the last file at a path is the one that later ones are compared with. -/
def placeFrom (o : Options) (seen : Seen) : List Rendered → Except Failure (List OutputFile)
  | [] => .ok []
  | r :: rest => do
    let place ← resolve o r.path
    if o.flat then
      match seen.lookup place.final with
      | some (first, nested) =>
        if nested ≠ place.nested then .error (.flatCollision place.final first r.template)
      | none => pure ()
    let more ← placeFrom o ((place.final, r.template, place.nested) :: seen) rest
    pure ({ path := place.final, content := r.content, template := r.template } :: more)

/-- Where the files go (`resolve_paths`). -/
def place (o : Options) (rendered : List Rendered) : Except Failure (List OutputFile) :=
  placeFrom o [] rendered

end Layout
end Stencil
