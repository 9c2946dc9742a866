import Stencil.Decimal.Power

/-!
# The shortest decimal that reads back

A binary floating-point number `m * 2 ^ q` stands for all reals nearer to it than to its
neighbours. `shortest m q` is the decimal with the fewest digits in that interval, and of those the
nearest: for 1, 2, … 17 digits the two neighbours of the value on the decimal grid are tried in
exact arithmetic.
-/
namespace Stencil.Decimal

/-- A decimal `digits * 10 ^ exponent`. -/
structure Scaled where
  digits : Nat
  exponent : Int
  deriving DecidableEq, Repr

/-- The number of decimal digits of `n`; zero has none. -/
def digitCount (n : Nat) : Nat := if n = 0 then 0 else (Nat.toDigits 10 n).length

/-- A positive value with the interval of reals that are read as it, all over one denominator. -/
structure Interval where
  low : Nat
  value : Nat
  high : Nat
  denominator : Nat
  /-- The ends belong to the interval. -/
  closed : Bool

/-- The interval of `m * 2 ^ q` in double precision. Below a power of two the gap is half as
wide. -/
def Interval.ofBinary (m : Nat) (q : Int) : Interval :=
  let lowGap := if m = twoTo 52 ∧ q > -1074 then 1 else 2
  let scale := twoTo (q - 2).toNat
  { low := (4 * m - lowGap) * scale, value := 4 * m * scale, high := (4 * m + 2) * scale,
    denominator := twoTo (2 - q).toNat, closed := m % 2 = 0 }

/-- Whether `digits * 10 ^ unit` lies in the interval. -/
def Interval.holds (r : Interval) (digits : Nat) (unit : Int) : Bool :=
  let d := digits * tenTo unit.toNat * r.denominator
  let s := tenTo (-unit).toNat
  if r.closed then decide (r.low * s ≤ d ∧ d ≤ r.high * s)
  else decide (r.low * s < d ∧ d < r.high * s)

/-- The greatest multiple of `10 ^ unit` up to the value, as a number of units. -/
def Interval.floor (r : Interval) (unit : Int) : Nat :=
  r.value * tenTo (-unit).toNat / (tenTo unit.toNat * r.denominator)

/-- Whether the value is nearer to `n` units than to `n + 1`. -/
def Interval.nearerBelow (r : Interval) (n : Nat) (unit : Int) : Bool :=
  2 * (r.value * tenTo (-unit).toNat) < (2 * n + 1) * (tenTo unit.toNat * r.denominator)

/-- The exponent `e` with `10 ^ (e - 1) ≤ value < 10 ^ e`. -/
def Interval.magnitude (r : Interval) : Int :=
  let whole := r.value / r.denominator
  if whole ≠ 0 then digitCount whole
  else
    -- the value is below one: count digits of the value in units small enough to show some
    let shift := digitCount r.denominator
    (digitCount (r.value * tenTo shift / r.denominator) : Int) - shift

/-- The decimals with `17 - fuel` digits and more, the first that lies in the interval. -/
def Interval.search (r : Interval) (e : Int) : Nat → Scaled
  | 0 => ⟨r.floor (e - 17), e - 17⟩
  | fuel + 1 =>
    let unit := e - (17 - (fuel : Int))
    let below := r.floor unit
    match r.holds below unit, r.holds (below + 1) unit with
    | true, true => ⟨if r.nearerBelow below unit then below else below + 1, unit⟩
    | true, false => ⟨below, unit⟩
    | false, true => ⟨below + 1, unit⟩
    | false, false => r.search e fuel

/-- `digits` without its trailing zeros, which go into the exponent. -/
def Scaled.trimZeros : Nat → Scaled → Scaled
  | 0, d => d
  | fuel + 1, d =>
    if d.digits ≠ 0 ∧ d.digits % 10 = 0 then
      Scaled.trimZeros fuel ⟨d.digits / 10, d.exponent + 1⟩
    else d

/-- The shortest decimal that is read as `m * 2 ^ q`, for positive `m`. -/
def shortest (m : Nat) (q : Int) : Scaled :=
  let r := Interval.ofBinary m q
  (r.search r.magnitude 17).trimZeros 20

/-- A double as sign, and either a special value or its shortest decimal. -/
inductive Reading
  | notANumber
  | infinite (negative : Bool)
  | finite (negative : Bool) (value : Scaled)

/-- Reads a double from its bits. -/
def Reading.ofFloat (x : Float) : Reading :=
  let bits : Nat := x.toBits.toNat
  let negative := bits ≥ twoTo 63
  let e : Nat := bits / twoTo 52 % twoTo 11
  let f : Nat := bits % twoTo 52
  if e = 2047 then if f = 0 then .infinite negative else .notANumber
  else if e = 0 then
    if f = 0 then .finite negative ⟨0, 0⟩ else .finite negative (shortest f (-1074))
  else .finite negative (shortest (twoTo 52 + f) ((e : Int) - 1075))

def zeros (count : Nat) : String := String.ofList (List.replicate count '0')

/-- The decimal written without an exponent; `mark` is written after a whole number. -/
def Scaled.positional (d : Scaled) (mark : String) : String :=
  let text := toString d.digits
  if d.exponent ≥ 0 then text ++ zeros (if d.digits = 0 then 0 else d.exponent.toNat) ++ mark
  else
    let places := (-d.exponent).toNat
    if places < text.length then
      String.ofList (text.toList.take (text.length - places)) ++ "."
        ++ String.ofList (text.toList.drop (text.length - places))
    else "0." ++ zeros (places - text.length) ++ text

/-- The decimal written with one digit before the point and a signed exponent. -/
def Scaled.scientific (d : Scaled) : String :=
  let text := toString d.digits
  let power := d.exponent + (text.length : Int) - 1
  let tail := text.toList.drop 1
  String.ofList (text.toList.take 1) ++ (if tail.isEmpty then "" else "." ++ String.ofList tail)
    ++ "e" ++ (if power < 0 then "-" else "+") ++ toString power.natAbs

end Stencil.Decimal
