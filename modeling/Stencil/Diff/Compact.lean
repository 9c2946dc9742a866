import Stencil.Diff.Script

/-!
# Tidying edit scripts

Every edit is moved up and then down over the kept lines beside it as far as the texts allow, and
joined with edits of its kind that it meets: first the removals, then the additions. Whether an edit
can move is read off the new text, so removals pass edits but never kept lines. This is how
`similar` 2.7 tidies its scripts.
-/
namespace Stencil.Diff

/-- A script with one edit in hand: the edits before it, the nearest first, and those behind it. -/
structure Held where
  before : List Edit
  this : Edit
  behind : List Edit

/-- The number of lines that the edit adds to the new text. -/
def Edit.newLength (e : Edit) : Nat := if e.action = .remove then 0 else e.length

/-- The edits with `e` put in front, joined with a first one that keeps lines. -/
def keepFront (e : Edit) : List Edit → List Edit
  | f :: rest =>
    if f.action = .keep then
      { f with old := f.old - e.length
               new := f.new - e.length
               length := f.length + e.length } :: rest
    else e :: f :: rest
  | [] => [e]

/-- The reversed edits with `e` put at the end, joined with a last one that keeps lines. -/
def keepBack (e : Edit) : List Edit → List Edit
  | f :: rest =>
    if f.action = .keep then { f with length := f.length + e.length } :: rest else e :: f :: rest
  | [] => [e]

/-- Moves the edit in hand up. -/
def moveUp (a b : Array Line) : Nat → Held → Held
  | 0, h => h
  | fuel + 1, h =>
    match h.before with
    | [] => h
    | prev :: before =>
      if prev.action = .keep then
        let n := commonBehind a b prev.old (prev.old + prev.length) h.this.new
          (h.this.new + h.this.newLength)
        if n > 0 then
          let kept : Edit :=
            ⟨.keep, prev.old + prev.length - n, h.this.new + h.this.newLength - n, n⟩
          let shorter := { prev with length := prev.length - n }
          moveUp a b fuel
            { before := if shorter.length = 0 then before else shorter :: before
              this := { h.this with old := h.this.old - n, new := h.this.new - n }
              behind := keepFront kept h.behind }
        else if prev.length = 0 then moveUp a b fuel { h with before }
        else h
      else if prev.action = h.this.action then
        moveUp a b fuel
          { h with before, this := { prev with length := prev.length + h.this.length } }
      else moveUp a b fuel { h with before, behind := prev :: h.behind }

/-- Moves the edit in hand down. -/
def moveDown (a b : Array Line) : Nat → Held → Held
  | 0, h => h
  | fuel + 1, h =>
    match h.behind with
    | [] => h
    | next :: behind =>
      if next.action = .keep then
        let n := commonAhead a b next.old (next.old + next.length) h.this.new
          (h.this.new + h.this.newLength)
        if n > 0 then
          let shorter : Edit :=
            { next with old := next.old + n, new := next.new + n, length := next.length - n }
          moveDown a b fuel
            { before := keepBack ⟨.keep, next.old, h.this.new, n⟩ h.before
              this := { h.this with old := h.this.old + n, new := h.this.new + n }
              behind := if shorter.length = 0 then behind else shorter :: behind }
        else if next.length = 0 then moveDown a b fuel { h with behind }
        else h
      else if next.action = h.this.action then
        moveDown a b fuel
          { h with behind, this := { h.this with length := h.this.length + next.length } }
      else moveDown a b fuel { h with before := next :: h.before, behind }

def passSteps (edits : List Edit) : Nat := edits.foldl (fun n e => n + e.length + 2) 2

/-- Moves every edit of one kind. -/
def moveAll (a b : Array Line) (action : Action) : Nat → List Edit → List Edit → List Edit
  | 0, before, behind => before.reverse ++ behind
  | _, before, [] => before.reverse
  | fuel + 1, before, e :: behind =>
    if e.action = action then
      let h := moveUp a b (passSteps before) ⟨before, e, behind⟩
      let h := moveDown a b (passSteps h.behind) h
      moveAll a b action fuel (h.this :: h.before) h.behind
    else moveAll a b action fuel (e :: before) behind

/-- The script with its edits moved and joined. -/
def compact (a b : Array Line) (edits : List Edit) : List Edit :=
  let steps := 4 * (edits.length + a.size + b.size) + 16
  moveAll a b .add steps [] (moveAll a b .remove steps [] edits)

end Stencil.Diff
