import Stencil.Decimal.Shortest
import Stencil.Decimal.Binary

/-!
# Reading decimals

The double nearest to a decimal.
-/
namespace Stencil.Decimal

/-- The double nearest to `digits * 10 ^ exponent`. -/
def nearest (digits : Nat) (exponent : Int) : Float :=
  let magnitude := exponent + digitCount digits
  if digits = 0 ∨ magnitude < -400 then 0.0
  else if magnitude > 400 then 1.0 / 0.0
  else ofRatio (digits * tenTo exponent.toNat) (tenTo (-exponent).toNat)

/-- Splits a text into the digits at its front and the rest. -/
def splitDigits (cs : List Char) : List Char × List Char :=
  (cs.takeWhile Char.isDigit, cs.dropWhile Char.isDigit)

def digitsValue (ds : List Char) : Nat := ds.foldl (fun n d => n * 10 + (d.toNat - 48)) 0

/-- Reads an unsigned decimal: digits with an optional point among or around them, and an optional
exponent. The whole text must be one. -/
def parse? (cs : List Char) : Option Float :=
  let (whole, rest) := splitDigits cs
  let (fraction, rest) := match rest with
    | '.' :: rest => splitDigits rest
    | rest => ([], rest)
  if whole.isEmpty && fraction.isEmpty then none
  else
    let value (e : Int) := nearest (digitsValue (whole ++ fraction)) (e - fraction.length)
    match rest with
    | [] => some (value 0)
    | mark :: rest =>
      if mark = 'e' ∨ mark = 'E' then
        let (down, rest) := match rest with
          | '+' :: r => (false, r)
          | '-' :: r => (true, r)
          | r => (false, r)
        match splitDigits rest with
        | ([], _) => none
        | (ds, []) =>
          let e : Int := min (digitsValue ds) (1000000000 : Nat)
          some (value (if down then -e else e))
        | _ => none
      else none

end Stencil.Decimal
