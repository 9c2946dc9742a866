import Stencil.Diff.Compact

/-!
# Unified diffs

A unified diff shows the changed stretches of a text, each with three lines of context around it.
Removed lines come before added ones, and a line without an end is marked. The text is that of
`similar` 2.7: a header takes its ranges from the places that the first and the last change of the
hunk have in the script.
-/
namespace Stencil.Diff

/-- A stretch that is the same in both texts, or one that takes the place of another. -/
structure Change where
  same : Bool
  old : Nat
  oldLength : Nat
  new : Nat
  newLength : Nat
  deriving DecidableEq, Repr

/-- Removed and added lines that are not yet part of a change. -/
structure Pending where
  removed : Option Edit
  added : Option Edit

def Pending.changes (p : Pending) : List Change :=
  match p.removed, p.added with
  | some r, some a => [⟨false, r.old, r.length, a.new, a.length⟩]
  | some r, none => [⟨false, r.old, r.length, r.new, 0⟩]
  | none, some a => [⟨false, a.old, 0, a.new, a.length⟩]
  | none, none => []

/-- An edit joined to pending ones of its kind. -/
def joinEdit (pending : Option Edit) (e : Edit) : Option Edit :=
  match pending with
  | some p => some { p with length := p.length + e.length }
  | none => some e

/-- The changes of a script. Kept lines that follow each other make one stretch, and so do removed
and added lines between kept ones. -/
def changesFrom (kept : Option Edit) (p : Pending) : List Edit → List Change
  | [] => keptChange kept ++ p.changes
  | e :: rest =>
    match e.action with
    | .keep => p.changes ++ changesFrom (joinEdit kept e) ⟨none, none⟩ rest
    | .remove => keptChange kept ++ changesFrom none { p with removed := joinEdit p.removed e } rest
    | .add => keptChange kept ++ changesFrom none { p with added := joinEdit p.added e } rest
where
  /-- The change of kept lines. -/
  keptChange : Option Edit → List Change
    | some k => [⟨true, k.old, k.length, k.new, k.length⟩]
    | none => []

def changes (edits : List Edit) : List Change := changesFrom none ⟨none, none⟩ edits

/-! ## Hunks -/

/-- How many lines of context a change has on each side. -/
def context : Nat := 3

/-- The last `context` lines of a stretch. -/
def Change.tail (c : Change) : Change :=
  let n := c.oldLength - context
  { same := c.same
    old := c.old + n
    oldLength := c.oldLength - n
    new := c.new + n
    newLength := c.oldLength - n }

/-- The first `context` lines of a stretch. -/
def Change.head (c : Change) : Change :=
  let n := min c.oldLength context
  { c with oldLength := n, newLength := n }

/-- Cuts the unchanged stretches at the ends to their context. -/
def trimEnds (cs : List Change) : List Change :=
  let cs := match cs with
    | c :: rest => if c.same then c.tail :: rest else c :: rest
    | [] => []
  match cs.getLast? with
  | some c => if c.same then cs.dropLast ++ [c.head] else cs
  | none => []

/-- Cuts changes into hunks wherever more than twice the context is unchanged. `group` is the hunk
at hand in reverse. -/
def hunksFrom (group : List Change) : List Change → List (List Change)
  | [] =>
    match group with
    | [] => []
    | [c] => if c.same then [] else [[c]]
    | group => [group.reverse]
  | c :: rest =>
    if c.same && c.oldLength > 2 * context then
      (c.head :: group).reverse :: hunksFrom [c.tail] rest
    else hunksFrom (c :: group) rest

def hunks (cs : List Change) : List (List Change) := hunksFrom [] (trimEnds cs)

/-! ## Text -/

/-- A range of lines: the number of the first one, and how many there are unless it is one. -/
def rangeText (start stop : Nat) : String :=
  let n := stop - start
  if n = 1 then toString (start + 1)
  else if n = 0 then toString start ++ ",0"
  else toString (start + 1) ++ "," ++ toString n

/-- A line behind its sign; a line without an end gets one and a mark. -/
def lineText (sign : Char) (line : Line) : List Char :=
  sign :: line ++ if isEnded line then [] else "\n\\ No newline at end of file\n".toList

def changeText (a b : Array Line) (c : Change) : List Char :=
  let olds := (a.toList.drop c.old).take c.oldLength
  if c.same then olds.flatMap (lineText ' ')
  else
    olds.flatMap (lineText '-') ++ ((b.toList.drop c.new).take c.newLength).flatMap (lineText '+')

/-- A hunk with its header. -/
def hunkText (a b : Array Line) (cs : List Change) : List Char :=
  match cs.head?, cs.getLast? with
  | some first, some last =>
    ("@@ -" ++ rangeText first.old (last.old + last.oldLength) ++ " +"
      ++ rangeText first.new (last.new + last.newLength) ++ " @@\n").toList
      ++ cs.flatMap (changeText a b)
  | _, _ => []

/-- The unified diff of two texts under the names of two files; the same texts give nothing. -/
def unified (oldName newName : String) (old new : String) : String :=
  let a := (lines old.toList).toArray
  let b := (lines new.toList).toArray
  let hs := hunks (changes (compact a b (script a b)))
  if hs.isEmpty then ""
  else
    "--- " ++ oldName ++ "\n+++ " ++ newName ++ "\n" ++ String.ofList (hs.flatMap (hunkText a b))

end Stencil.Diff
