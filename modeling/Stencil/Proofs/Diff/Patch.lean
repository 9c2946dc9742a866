import Stencil.Diff.Unified
import Stencil.Text.Split

/-!
# Reading and applying unified diffs

What a unified diff says, whoever wrote it. `read` takes it apart into hunks, and `apply` carries
the hunks out: strictly, as each must give its place and its lengths right in both texts, and the
lines that it keeps and removes must be there. Lines end with a line feed. `Rewrites` looks at the
rows only.
-/
namespace Stencil.Diff

/-- The lines of a text, each with the line feed at its end. The last line may lack one. -/
def feedLines : List Char → List Line
  | [] => []
  | c :: rest => if c = '\n' then [c] :: feedLines rest else prepend c (feedLines rest)

namespace Patch

/-- Some lines of a text: how many are before them, and how many they are. -/
structure Range where
  start : Nat
  count : Nat
  deriving DecidableEq, Repr

/-- A line with what a diff does with it. -/
structure Row where
  action : Action
  line : Line
  deriving DecidableEq, Repr

/-- A hunk, with its places in both texts as the header tells them. -/
structure Hunk where
  old : Range
  new : Range
  rows : List Row
  deriving DecidableEq, Repr

def oldLines (rows : List Row) : List Line := (rows.filter (·.action ≠ .add)).map (·.line)

def newLines (rows : List Row) : List Line := (rows.filter (·.action ≠ .remove)).map (·.line)

/-! ## Reading -/

def readNumber (cs : List Char) : Option Nat :=
  if cs ≠ [] ∧ cs.all Char.isDigit then some (Nat.ofDigitChars 10 cs 0) else none

/-- The range of `count` lines that begins with line number `first`. Without lines, `first` is the
number of the line before. -/
def rangeAt (first count : Nat) : Option Range :=
  if count = 0 then some ⟨first, 0⟩ else if first = 0 then none else some ⟨first - 1, count⟩

def readRange (cs : List Char) : Option Range :=
  match Text.splitAt ',' cs with
  | [first] => do rangeAt (← readNumber first) 1
  | [first, count] => do rangeAt (← readNumber first) (← readNumber count)
  | _ => none

def readHeader (line : Line) : Option (Range × Range) :=
  match Text.splitAt ' ' line with
  | [['@', '@'], '-' :: old, '+' :: new, ['@', '@', '\n']] => do
    pure (← readRange old, ← readRange new)
  | _ => none

/-- What the sign in front of a line says. -/
def readSign : Char → Option Action
  | ' ' => some .keep
  | '-' => some .remove
  | '+' => some .add
  | _ => none

/-- The mark behind a line that lacks its end. -/
def noEnd : Line := "\\ No newline at end of file\n".toList

/-- What was read of the end of a diff: the hunks, the rows in front of them, and whether there is a
mark for the line before. -/
structure Reading where
  marked : Bool
  rows : List Row
  hunks : List Hunk

/-- Reads the line in front of what was read. -/
def Reading.before (r : Reading) (line : Line) : Option Reading :=
  if line = noEnd then if r.marked then none else some { r with marked := true }
  else if line.getLast? ≠ some '\n' then none
  else match line with
    | [] => none
    | '@' :: _ => do
      if r.marked then none
      let (old, new) ← readHeader line
      pure ⟨false, [], ⟨old, new, r.rows⟩ :: r.hunks⟩
    | sign :: cs => do
      let action ← readSign sign
      pure ⟨false, ⟨action, if r.marked then cs.dropLast else cs⟩ :: r.rows, r.hunks⟩

/-- Reads the lines of a diff, the last one first. -/
def readLines : List Line → Option Reading
  | [] => some ⟨false, [], []⟩
  | line :: rest => do (← readLines rest).before line

def readHunks (ls : List Line) : Option (List Hunk) :=
  match readLines ls with
  | some ⟨false, [], hunks⟩ => some hunks
  | _ => none

/-- Reads a unified diff of the files with these names. -/
def read (oldName newName text : String) : Option (List Hunk) := do
  let rest ← Text.afterStart ("--- " ++ oldName ++ "\n+++ " ++ newName ++ "\n").toList text.toList
  readHunks (feedLines rest)

/-! ## Applying -/

/-- Applies hunks from line `i` of the old text and line `j` of the new one on. -/
def applyFrom (i j : Nat) (old : List Line) : List Hunk → Option (List Line)
  | [] => some old
  | h :: hs =>
    let gap := h.old.start - i
    let rest := old.drop gap
    if i ≤ h.old.start ∧ h.new.start = j + gap ∧ gap ≤ old.length ∧
        h.old.count = (oldLines h.rows).length ∧ h.new.count = (newLines h.rows).length ∧
        oldLines h.rows <+: rest then
      (applyFrom (i + gap + h.old.count) (j + gap + h.new.count) (rest.drop h.old.count) hs).map
        fun more => old.take gap ++ newLines h.rows ++ more
    else none

def apply (hunks : List Hunk) (old : String) : Option String :=
  (applyFrom 0 0 (feedLines old.toList) hunks).map fun ls => String.ofList ls.flatten

/-- The rows turn some lines into others, wherever the headers say that they stand. -/
inductive Rewrites : List Hunk → List Line → List Line → Prop
  | done (rest : List Line) : Rewrites [] rest rest
  | hunk (h : Hunk) (same : List Line) {hs : List Hunk} {rest rest' : List Line}
      (more : Rewrites hs rest rest') :
      Rewrites (h :: hs) (same ++ oldLines h.rows ++ rest) (same ++ newLines h.rows ++ rest')

end Patch
end Stencil.Diff
