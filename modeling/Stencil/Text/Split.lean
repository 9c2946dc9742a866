import Stencil.Unicode.Character

/-!
# Cutting and joining texts

Trimming, cutting at a separator and joining again. `splitAt sep` always gives at least one piece,
and `join [sep] (splitAt sep s) = s`.
-/
namespace Stencil.Text
open Stencil.Unicode

/-- `cs` without the characters at its end that satisfy `p`. -/
def dropEndWhile (p : Char → Bool) (cs : List Char) : List Char :=
  (cs.reverse.dropWhile p).reverse

/-- `cs` without the characters at either end that satisfy `p`. -/
def stripWhile (p : Char → Bool) (cs : List Char) : List Char :=
  dropEndWhile p (cs.dropWhile p)

def trim (s : String) : String := String.ofList (stripWhile isBlank s.toList)

section Pieces
variable {α : Type}

/-- The pieces between the separators; `n` separators give `n + 1` pieces. -/
def splitAt [DecidableEq α] (sep : α) : List α → List (List α)
  | [] => [[]]
  | c :: rest =>
    if c = sep then [] :: splitAt sep rest
    else match splitAt sep rest with
      | [] => [[c]]
      | piece :: pieces => (c :: piece) :: pieces

/-- The pieces one after another with `sep` between neighbours. -/
def join (sep : List α) : List (List α) → List α
  | [] => []
  | [piece] => piece
  | piece :: next :: rest => piece ++ sep ++ join sep (next :: rest)

end Pieces

/-- What follows `front` in `cs`, if `cs` begins with it. -/
def afterStart : List Char → List Char → Option (List Char)
  | [], cs => some cs
  | _ :: _, [] => none
  | f :: front, c :: cs => if f = c then afterStart front cs else none

def occursIn (part : List Char) : List Char → Bool
  | [] => part.isEmpty
  | c :: cs => (afterStart part (c :: cs)).isSome || occursIn part cs

/-- `cs` with the first occurrence of `old` replaced by `new`. -/
def replaceFirst (old new : List Char) : List Char → List Char
  | [] => if old.isEmpty then new else []
  | c :: cs =>
    match afterStart old (c :: cs) with
    | some rest => new ++ rest
    | none => c :: replaceFirst old new cs

def endsWith (tail cs : List Char) : Bool := (afterStart tail.reverse cs.reverse).isSome

def split (sep : Char) (s : String) : List String := (splitAt sep s.toList).map String.ofList

section Pieces
variable {α : Type} [DecidableEq α]

theorem splitAt_ne_nil (sep : α) (cs : List α) : splitAt sep cs ≠ [] := by
  induction cs with
  | nil => simp [splitAt]
  | cons c rest ih =>
    by_cases h : c = sep
    · simp [splitAt, h]
    · cases hp : splitAt sep rest with
      | nil => exact absurd hp ih
      | cons p ps => simp [splitAt, h, hp]

theorem join_splitAt (sep : α) (cs : List α) : join [sep] (splitAt sep cs) = cs := by
  induction cs with
  | nil => rfl
  | cons c rest ih =>
    cases hp : splitAt sep rest with
    | nil => exact absurd hp (splitAt_ne_nil sep rest)
    | cons p ps =>
      rw [hp] at ih
      by_cases h : c = sep
      · simp only [splitAt, h, if_true, hp]
        simp [join, ih]
      · simp only [splitAt, h, if_false, hp]
        cases ps with
        | nil => simp only [join] at ih ⊢; rw [ih]
        | cons q qs => simp only [join, List.cons_append] at ih ⊢; rw [ih]

end Pieces

end Stencil.Text
