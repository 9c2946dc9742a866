import Stencil.Diff.Lines

/-!
# Edit scripts

An edit script says how one list of lines becomes another: it keeps, removes and adds stretches of
lines. `script` finds a short one by the method of the middle snake: the furthest-reaching paths
from both ends of the edit graph are extended in turn until they meet, and both parts are treated
alike. Of several short scripts it is the one that `similar` 2.7 finds.
-/
namespace Stencil.Diff

/-- What an edit does with its lines. -/
inductive Action
  | keep | remove | add
  deriving DecidableEq, Repr

/-- An edit of `length` lines at a place in the old and the new text. -/
structure Edit where
  action : Action
  old : Nat
  new : Nat
  length : Nat
  deriving DecidableEq, Repr

/-- Stretches of the two texts. -/
structure Window where
  old : Nat
  oldEnd : Nat
  new : Nat
  newEnd : Nat

/-- How many lines at the start of two stretches are the same, `fuel` at most. -/
def sameAhead (a b : Array Line) (i iEnd j jEnd : Nat) : Nat → Nat
  | 0 => 0
  | fuel + 1 =>
    if i < iEnd && j < jEnd && a[i]? == b[j]? then
      sameAhead a b (i + 1) iEnd (j + 1) jEnd fuel + 1
    else 0

/-- How many lines at the end of two stretches are the same, `fuel` at most. -/
def sameBehind (a b : Array Line) (i iEnd j jEnd : Nat) : Nat → Nat
  | 0 => 0
  | fuel + 1 =>
    if i < iEnd && j < jEnd && a[iEnd - 1]? == b[jEnd - 1]? then
      sameBehind a b i (iEnd - 1) j (jEnd - 1) fuel + 1
    else 0

/-- How many lines at the start of two stretches are the same. -/
def commonAhead (a b : Array Line) (i iEnd j jEnd : Nat) : Nat :=
  sameAhead a b i iEnd j jEnd (iEnd - i)

def commonBehind (a b : Array Line) (i iEnd j jEnd : Nat) : Nat :=
  sameBehind a b i iEnd j jEnd (iEnd - i)

/-! ## The middle snake -/

/-- How far the paths reach on each diagonal; diagonal `k` is kept at place `k + middle`. -/
structure Reach where
  middle : Nat
  far : Array Nat

def Reach.get (r : Reach) (k : Int) : Nat := (r.far[(k + r.middle).toNat]?).getD 0

def Reach.set (r : Reach) (k : Int) (x : Nat) : Reach :=
  { r with far := r.far.setIfInBounds (k + r.middle).toNat x }

/-- The start of the next piece of path on diagonal `k` with `d` differences. -/
def Reach.start (r : Reach) (d k : Int) : Nat :=
  if k = -d ∨ (k ≠ d ∧ r.get (k - 1) < r.get (k + 1)) then r.get (k + 1) else r.get (k - 1) + 1

/-- The diagonals of paths with `d` differences, the highest first. -/
def diagonals (d : Nat) : List Int := (List.range (d + 1)).map fun (i : Nat) => (d : Int) - 2 * i

/-- Extends the paths from the start on these diagonals. Stops where one meets a path from the end,
and gives the place where its last piece began. -/
def forward (a b : Array Line) (w : Window) (d : Int) (back : Reach) :
    Reach → List Int → Reach × Option (Nat × Nat)
  | r, [] => (r, none)
  | r, k :: ks =>
    let n := w.oldEnd - w.old
    let m := w.newEnd - w.new
    let delta : Int := n - m
    let x₀ := r.start d k
    let y₀ : Int := x₀ - k
    let x :=
      if x₀ < n ∧ 0 ≤ y₀ ∧ y₀ < m then
        x₀ + commonAhead a b (w.old + x₀) w.oldEnd (w.new + y₀.toNat) w.newEnd
      else x₀
    let r := r.set k x
    if delta % 2 = 1 ∧ (k - delta).natAbs ≤ d - 1 ∧ n ≤ x + back.get (-(k - delta)) then
      (r, some (x₀ + w.old, y₀.toNat + w.new))
    else forward a b w d back r ks

/-- Extends the paths from the end on these diagonals. Stops where one meets a path from the start,
and gives the place that it reached. -/
def backward (a b : Array Line) (w : Window) (d : Int) (front : Reach) :
    Reach → List Int → Reach × Option (Nat × Nat)
  | r, [] => (r, none)
  | r, k :: ks =>
    let n := w.oldEnd - w.old
    let m := w.newEnd - w.new
    let delta : Int := n - m
    let x₀ := r.start d k
    let y₀ : Int := x₀ - k
    let same :=
      if x₀ < n ∧ 0 ≤ y₀ ∧ y₀ < m then
        commonBehind a b w.old (w.oldEnd - x₀) w.new (w.newEnd - y₀.toNat)
      else 0
    let x := x₀ + same
    let r := r.set k x
    if delta % 2 = 0 ∧ (k - delta).natAbs ≤ d ∧ n ≤ x + front.get (-(k - delta)) then
      (r, some (w.oldEnd - x, w.newEnd - (y₀.toNat + same)))
    else backward a b w d front r ks

/-- Looks for the place where the paths of both ends meet, with `d` differences and more. -/
def meet (a b : Array Line) (w : Window) : Nat → Nat → Reach → Reach → Option (Nat × Nat)
  | 0, _, _, _ => none
  | fuel + 1, d, front, back =>
    match forward a b w d back front (diagonals d) with
    | (_, some p) => some p
    | (front, none) =>
      match backward a b w d front back (diagonals d) with
      | (_, some p) => some p
      | (back, none) => meet a b w fuel (d + 1) front back

/-- The place at which two stretches are cut in two. -/
def middle (a b : Array Line) (w : Window) : Option (Nat × Nat) :=
  let most := ((w.oldEnd - w.old) + (w.newEnd - w.new) + 1) / 2 + 1
  let start : Reach := ⟨most + 1, Array.replicate (2 * most + 3) 0⟩
  meet a b w most 0 start start

/-! ## The script -/

def edit (action : Action) (old new length : Nat) : List Edit :=
  if length = 0 then [] else [⟨action, old, new, length⟩]

/-- The edits of two stretches: what they have in common at their ends is kept, and the rest is cut
at the middle snake until one side is empty. -/
def scriptOf (a b : Array Line) : Nat → Window → List Edit
  | 0, w => edit .remove w.old w.new (w.oldEnd - w.old) ++ edit .add w.old w.new (w.newEnd - w.new)
  | fuel + 1, w =>
    let ahead := commonAhead a b w.old w.oldEnd w.new w.newEnd
    let i := w.old + ahead
    let j := w.new + ahead
    let behind := commonBehind a b i w.oldEnd j w.newEnd
    let iEnd := w.oldEnd - behind
    let jEnd := w.newEnd - behind
    let inner :=
      if i = iEnd ∨ j = jEnd then edit .remove i j (iEnd - i) ++ edit .add i j (jEnd - j)
      else match middle a b ⟨i, iEnd, j, jEnd⟩ with
        | some (x, y) =>
          if i ≤ x ∧ x ≤ iEnd ∧ j ≤ y ∧ y ≤ jEnd then
            scriptOf a b fuel ⟨i, x, j, y⟩ ++ scriptOf a b fuel ⟨x, iEnd, y, jEnd⟩
          else edit .remove i j (iEnd - i) ++ edit .add i j (jEnd - j)
        | none => edit .remove i j (iEnd - i) ++ edit .add i j (jEnd - j)
    edit .keep w.old w.new ahead ++ inner ++ edit .keep iEnd jEnd behind

/-- A short edit script. -/
def script (a b : Array Line) : List Edit :=
  scriptOf a b (a.size + b.size + 1) ⟨0, a.size, 0, b.size⟩

end Stencil.Diff
