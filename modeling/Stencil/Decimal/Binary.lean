import Stencil.Decimal.Power

/-!
# Doubles as fractions

`ofRatio` gives the double nearest to a fraction, ties to the even significand, and `parts` the
exact value of a finite double.
-/
namespace Stencil.Decimal

/-- The double with this significand, below `2 ^ 53`, times `2 ^ exponent`, for an exponent of at
least -1074; a significand below `2 ^ 52` takes the least exponent. -/
def assemble (significand : Nat) (exponent : Int) : Float :=
  let bits : Nat :=
    if significand < twoTo 52 then significand
    else if exponent > 971 then 2047 * twoTo 52
    else (exponent + 1075).toNat * twoTo 52 + (significand - twoTo 52)
  Float.ofBits bits.toUInt64

def bitCount (n : Nat) : Nat := if n = 0 then 0 else Nat.log2 n + 1

/-- The double nearest to `num / den`. -/
def ofRatio (num den : Nat) : Float :=
  if num = 0 ∨ den = 0 then 0.0
  else
    -- with this exponent the quotient has 53 or 54 binary digits
    let guess : Int := max ((bitCount num : Int) - bitCount den - 53) (-1074)
    let quotient (e : Int) : Nat := num * twoTo (-e).toNat / (den * twoTo e.toNat)
    let e := if quotient guess ≥ twoTo 53 then guess + 1 else guess
    let q := quotient e
    let rest := num * twoTo (-e).toNat - q * (den * twoTo e.toNat)
    let half := den * twoTo e.toNat
    let up := 2 * rest > half ∨ (2 * rest = half ∧ q % 2 = 1)
    let q := if up then q + 1 else q
    if q = twoTo 53 then assemble (twoTo 52) (e + 1) else assemble q e

def ofInt (n : Int) : Float := if n < 0 then -ofRatio n.natAbs 1 else ofRatio n.natAbs 1

/-- The magnitude of a finite double as `m * 2 ^ q`. -/
def parts (x : Float) : Nat × Int :=
  let bits : Nat := x.toBits.toNat
  let e : Nat := bits / twoTo 52 % twoTo 11
  let f : Nat := bits % twoTo 52
  if e = 0 then (f, -1074) else (twoTo 52 + f, (e : Int) - 1075)

/-- Whether the sign bit is set. -/
def isNegative (x : Float) : Bool := x.toBits.toNat ≥ twoTo 63

/-- The whole number that a finite double is, if it is one. -/
def toInt? (x : Float) : Option Int :=
  if !x.isFinite then none
  else
    let (m, q) := parts x
    let whole : Option Nat :=
      if q ≥ 0 then some (m * twoTo q.toNat)
      else if m % twoTo (-q).toNat = 0 then some (m / twoTo (-q).toNat) else none
    whole.map fun n => if isNegative x then -(n : Int) else n

/-- A finite double without its fraction. -/
def truncate (x : Float) : Float :=
  if !x.isFinite then x
  else
    let (m, q) := parts x
    if q ≥ 0 then x
    else
      let whole := ofRatio (m / twoTo (-q).toNat) 1
      if isNegative x then -whole else whole

/-- What is left of `x` when whole multiples of `y` are taken off towards zero. -/
def remainder (x y : Float) : Float :=
  if !x.isFinite || y.isNaN || y == 0.0 then 0.0 / 0.0
  else if !y.isFinite then x
  else
    let (m, q) := parts x
    let (n, r) := parts y
    let low := min q r
    let rest := (m * twoTo (q - low).toNat) % (n * twoTo (r - low).toNat)
    let magnitude := ofRatio (rest * twoTo low.toNat) (twoTo (-low).toNat)
    if isNegative x then -magnitude else magnitude

end Stencil.Decimal
