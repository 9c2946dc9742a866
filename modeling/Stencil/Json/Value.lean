import Stencil.Decimal.Shortest

/-!
# JSON values

An object keeps its members in the order of their keys, each key once; `ofMembers` builds it from
members in any order, of which the last with a key counts. These are the values of `serde_json` 1.0
with its default features.
-/
namespace Stencil

/-- A JSON number: a whole number of 64 bits, signed or unsigned, or a double. -/
inductive Json.Number
  | whole (value : Int)
  | real (value : Float)
  deriving Inhabited, BEq, Repr

inductive Json
  | null
  | bool (value : Bool)
  | number (value : Json.Number)
  | string (value : String)
  | array (items : List Json)
  | object (members : List (String × Json))
  deriving Inhabited, BEq, Repr

namespace Json

/-- The number in JSON text: whole numbers as they are, others with the fewest digits that read
back, without exponent for magnitudes from 1e-5 up to 1e16. -/
def Number.text : Number → String
  | .whole n => toString n
  | .real x =>
    match Decimal.Reading.ofFloat x with
    | .finite negative d =>
      let point := d.exponent + (Decimal.digitCount d.digits : Int)
      let body :=
        if d.digits = 0 ∨ (-5 < point ∧ point ≤ 16) then d.positional ".0" else d.scientific
      (if negative then "-" else "") ++ body
    | _ => "null"

/-- Members with `key` put to its place by order of keys, in place of an old value. -/
def insertMember (key : String) (value : Json) : List (String × Json) → List (String × Json)
  | [] => [(key, value)]
  | (k, v) :: rest =>
    if key = k then (key, value) :: rest
    else if key < k then (key, value) :: (k, v) :: rest
    else (k, v) :: insertMember key value rest

def ofMembers (members : List (String × Json)) : Json :=
  .object (members.foldl (fun done m => insertMember m.1 m.2 done) [])

end Json
end Stencil
