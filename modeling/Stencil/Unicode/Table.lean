/-!
# Tables of characters

The Unicode standard gives a property of characters as a list of ranges. `Table` keeps such a list
in ascending order, and `Table.contains` looks a code point up. A run has a step because the cased
scripts alternate: every second letter is a capital one.

The tables are those of Unicode 15.0. Later versions, which newer libraries have, assign more code
points; here these count as unassigned.
-/
namespace Stencil.Unicode

/-- Runs of code points, each as first, last and step, in ascending order. -/
abbrev Table := List (Nat × Nat × Nat)

/-- Whether a code point lies on one of the runs. The search stops at the first run that starts
beyond the code point. -/
def Table.contains : Table → Nat → Bool
  | [], _ => false
  | (first, last, step) :: rest, c =>
    if c < first then false
    else if c ≤ last then (c - first) % step == 0
    else Table.contains rest c

/-- Runs of code points that are all moved by one distance, in ascending order. -/
abbrev Shifts := List (Nat × Nat × Nat × Int)

/-- The code point that `c` is moved to; one that lies on no run stays. -/
def Shifts.apply : Shifts → Nat → Nat
  | [], c => c
  | (first, last, step, distance) :: rest, c =>
    if c < first then c
    else if c ≤ last then
      if (c - first) % step == 0 then ((c : Int) + distance).toNat else c
    else Shifts.apply rest c

end Stencil.Unicode
