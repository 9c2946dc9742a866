import Stencil.Json.Value

/-!
# Reading JSON numbers

A number without fraction and exponent that fits 64 bits is whole; any other becomes a double: the
digits that fit 64 bits, scaled by a power of ten in double arithmetic. This is what `serde_json`
1.0 does by default; it need not give the double nearest to the number.
-/
namespace Stencil.Json

/-- Why a text is not JSON. -/
inductive ReadError
  | unexpectedEnd
  | unexpected (found : Char)
  | badNumber
  | numberOutOfRange
  | badEscape
  | controlCharacter
  | loneSurrogate
  | tooDeep
  | trailingText
  | notAnObject
  deriving DecidableEq, Repr

/-- The greatest number of 64 bits. -/
def maxWord : Nat := twoTo 64 - 1

/-- Appends decimal digits to `significand` as long as it fits 64 bits; gives the result and the
digits that are left. -/
def absorb (significand : Nat) : List Char → Nat × List Char
  | [] => (significand, [])
  | d :: rest =>
    let next := significand * 10 + (d.toNat - 48)
    if next ≤ maxWord then absorb next rest else (significand, d :: rest)

/-- `f` times ten to the power `exponent`. Powers beyond 308 are taken in several divisions, and
are out of range as factors. -/
def scale : Nat → Float → Int → Except ReadError Float
  | 0, f, _ => .ok f
  | fuel + 1, f, exponent =>
    if exponent.natAbs ≤ 308 then
      let power := Float.ofScientific 1 false exponent.natAbs
      if exponent ≥ 0 then
        let product := f * power
        if product.isInf then .error .numberOutOfRange else .ok product
      else .ok (f / power)
    else if f == 0.0 then .ok f
    else if exponent ≥ 0 then .error .numberOutOfRange
    else scale fuel (f / Float.ofScientific 1 false 308) (exponent + 308)

/-- The double `± significand * 10 ^ exponent`. -/
def toReal (negative : Bool) (significand : Nat) (exponent : Int) : Except ReadError Number := do
  let f ← scale 8 significand.toUInt64.toFloat exponent
  pure (.real (if negative then -f else f))

def digits (cs : List Char) : List Char × List Char :=
  (cs.takeWhile Char.isDigit, cs.dropWhile Char.isDigit)

/-- Reads the rest of a number from its exponent on, if it has one. -/
def exponentPart (negative : Bool) (significand : Nat) (before : Int) (cs : List Char) :
    Except ReadError (Number × List Char) :=
  match cs with
  | mark :: rest =>
    if mark = 'e' ∨ mark = 'E' then
      let (down, rest) := match rest with
        | '+' :: r => (false, r)
        | '-' :: r => (true, r)
        | r => (false, r)
      match digits rest with
      | ([], c :: _) => .error (.unexpected c)
      | ([], []) => .error .unexpectedEnd
      | (ds, rest) =>
        let power : Nat := ds.foldl (fun n d => min (n * 10 + (d.toNat - 48)) (twoTo 40)) 0
        if power > twoTo 31 - 1 then
          if significand ≠ 0 ∧ ¬ down then .error .numberOutOfRange
          else .ok (.real (if negative then -0.0 else 0.0), rest)
        else do
          let x ← toReal negative significand (if down then before - power else before + power)
          pure (x, rest)
    else do pure (← toReal negative significand before, cs)
  | [] => do pure (← toReal negative significand before, cs)

/-- Reads the rest of a number after the digits before the point: `exponent` counts those of them
that did not fit. -/
def fractionPart (negative : Bool) (significand : Nat) (exponent : Nat) (cs : List Char) :
    Except ReadError (Number × List Char) :=
  match cs with
  | '.' :: rest =>
    match digits rest with
    | ([], c :: _) => .error (.unexpected c)
    | ([], []) => .error .unexpectedEnd
    | (ds, rest) =>
      let (significand, left) := absorb significand ds
      exponentPart negative significand ((exponent : Int) - (ds.length - left.length : Nat)) rest
  | mark :: _ =>
    if mark = 'e' ∨ mark = 'E' ∨ exponent ≠ 0 then exponentPart negative significand exponent cs
    else .ok (whole negative significand, cs)
  | [] =>
    if exponent ≠ 0 then exponentPart negative significand exponent cs
    else .ok (whole negative significand, cs)
where
  /-- A whole number; a negative zero and what lies below the signed range are doubles. -/
  whole (negative : Bool) (n : Nat) : Number :=
    if ¬ negative then .whole n
    else if n = 0 ∨ n > twoTo 63 then .real (-n.toUInt64.toFloat)
    else .whole (-(n : Int))

def unsignedNumber (negative : Bool) (cs : List Char) : Except ReadError (Number × List Char) :=
  match digits cs with
  | ([], c :: _) => .error (.unexpected c)
  | ([], []) => .error .unexpectedEnd
  | ('0' :: _ :: _, _) => .error .badNumber
  | (ds, rest) =>
    let (significand, left) := absorb 0 ds
    fractionPart negative significand left.length rest

end Stencil.Json
