import Stencil.Unicode.Character
import Stencil.Decimal.Reading
import Stencil.Expression.Syntax
import Stencil.Expression.Error

/-!
# Values of expressions

What an expression evaluates to, the text of a value, and the two ways to compare values: equality,
which takes numbers and truth values by what they count, and the order that sorts all values, first
by their kind. Texts and comparisons are those of `minijinja` 2.21.0.
-/
namespace Stencil.Expression

inductive Value
  /-- The value of a missing field or item; `silent` marks that of a choice without alternative. -/
  | undefined (silent : Bool)
  | none
  | bool (value : Bool)
  | int (value : Int)
  | real (value : Float)
  | text (value : String)
  /-- A list; `derived` marks one that an operator put together. -/
  | list (derived : Bool) (items : List Value)
  /-- A map in the order of its keys. -/
  | map (entries : List (Value × Value))
  deriving Inhabited

def Literal.value : Literal → Value
  | .none => .none
  | .bool b => .bool b
  | .int n => .int n
  | .real x => .real x
  | .text s => .text s

namespace Value

/-! ## Text -/

/-- A character as it stands in a quoted text. -/
def quotedChar (c : Char) : List Char :=
  match c with
  | '"' => ['\\', '"']
  | '\\' => ['\\', '\\']
  | '\n' => ['\\', 'n']
  | '\t' => ['\\', 't']
  | '\r' => ['\\', 'r']
  | '\x00' => ['\\', '0']
  | c =>
    if Unicode.extendsGrapheme c || Unicode.isInvisible c then
      ['\\', 'u', '\x7b'] ++ Nat.toDigits 16 c.toNat ++ ['\x7d']
    else [c]

def quoted (s : String) : String := "\"" ++ String.ofList (s.toList.flatMap quotedChar) ++ "\""

/-- A double on its own: without exponent and with a point. -/
def realText (x : Float) : String :=
  match Decimal.Reading.ofFloat x with
  | .notANumber => "NaN"
  | .infinite negative => if negative then "-inf" else "inf"
  | .finite negative d => (if negative then "-" else "") ++ d.positional ".0"

/-- A double inside of a list or a map: with an exponent from 1e16 on and below 1e-4. -/
def innerRealText (x : Float) : String :=
  match Decimal.Reading.ofFloat x with
  | .notANumber => "NaN"
  | .infinite negative => if negative then "-inf" else "inf"
  | .finite negative d =>
    let point := d.exponent + (Decimal.digitCount d.digits : Int)
    let body :=
      if d.digits = 0 ∨ (-3 ≤ point ∧ point ≤ 16) then d.positional ".0"
      else String.ofList (d.scientific.toList.filter (· ≠ '+'))
    (if negative then "-" else "") ++ body

mutual

def innerText : Value → String
  | undefined _ => "undefined"
  | none => "none"
  | bool b => if b then "true" else "false"
  | int n => toString n
  | real x => innerRealText x
  | text s => quoted s
  | list _ items => "[" ++ itemsText items ++ "]"
  | map entries => "\x7b" ++ entriesText entries ++ "\x7d"

def itemsText : List Value → String
  | [] => ""
  | [v] => innerText v
  | v :: rest => innerText v ++ ", " ++ itemsText rest

def entriesText : List (Value × Value) → String
  | [] => ""
  | [(k, v)] => innerText k ++ ": " ++ innerText v
  | (k, v) :: rest => innerText k ++ ": " ++ innerText v ++ ", " ++ entriesText rest

end

/-- A value as it stands in the output. -/
def display : Value → String
  | undefined _ => ""
  | real x => realText x
  | text s => s
  | v => innerText v

/-! ## Numbers -/

/-- The whole number that a value counts as. -/
def toInt? : Value → Option Int
  | bool b => some (if b then 1 else 0)
  | int n => some n
  | real x => Decimal.toInt? x
  | _ => Option.none

/-- The double that a value counts as. -/
def toReal? : Value → Option Float
  | bool b => some (if b then 1.0 else 0.0)
  | int n => some (Decimal.ofInt n)
  | real x => some x
  | _ => Option.none

/-- Two numbers of one kind. -/
inductive Numbers
  | ints (a b : Int)
  | reals (a b : Float)

/-- Whether a whole number fits 128 bits with a sign. -/
def fits (n : Int) : Bool := -(twoTo 127 : Int) ≤ n && n < twoTo 127

/-- Two operands as numbers of one kind: whole numbers, unless one of them is a double. Whole
numbers beyond the signed range count only among themselves, with their bits read as signed. -/
def numbers? (a b : Value) : Option Numbers :=
  match a, b with
  | real x, b => b.toReal?.map (.reals x)
  | a, real y => a.toReal?.map (.reals · y)
  | a, b =>
    match a.toInt?, b.toInt? with
    | some m, some n =>
      if fits m && fits n then some (.ints m n)
      else if twoTo 64 ≤ m && twoTo 64 ≤ n then
        let signed (k : Int) : Int := if fits k then k else k - twoTo 128
        some (.ints (signed m) (signed n))
      else Option.none
    | _, _ => Option.none

/-- Two values as numbers for a comparison; a whole number that no double equals has none. -/
def comparable? (a b : Value) : Option Numbers :=
  let exact (v : Value) : Bool :=
    match v with
    | int n => Decimal.toInt? (Decimal.ofInt n) == some n
    | _ => true
  match numbers? a b with
  | some (.reals x y) => if exact a && exact b then some (.reals x y) else Option.none
  | r => r

/-! ## Comparing -/

/-- The place of a kind of value among the kinds. -/
def kind : Value → Nat
  | undefined _ => 0
  | none => 1
  | bool _ => 2
  | int _ | real _ => 3
  | text _ => 4
  | list false _ => 5
  | map _ => 6
  | list true _ => 7

/-- A double's bits as a number that grows with the double. -/
def orderKey (x : Float) : Int :=
  let bits : Nat := x.toBits.toNat
  if bits ≥ twoTo 63 then -(bits - twoTo 63 : Nat) - 1 else bits

/-- The order of two values of one kind that hold no values themselves. -/
def compareSimple (a b : Value) : Ordering :=
  match a, b with
  | text s, text t => compare s t
  | a, b =>
    match comparable? a b with
    | some (.ints m n) => compare m n
    | some (.reals x y) => compare (orderKey x) (orderKey y)
    | Option.none =>
      match a.toReal?, b.toReal? with
      | some x, some y => compare (orderKey x) (orderKey y)
      | _, _ => .eq

mutual

/-- The order of all values. -/
def order : Value → Value → Ordering
  | list d xs, list e ys => (compare (list d xs).kind (list e ys).kind).then (orderItems xs ys)
  | map xs, map ys => orderEntries xs ys
  | a, b => (compare a.kind b.kind).then (compareSimple a b)

/-- The order of two lists, by their first difference. -/
def orderItems : List Value → List Value → Ordering
  | [], [] => .eq
  | [], _ :: _ => .lt
  | _ :: _, [] => .gt
  | x :: xs, y :: ys => (order x y).then (orderItems xs ys)

/-- The order of two maps, by their first difference. -/
def orderEntries : List (Value × Value) → List (Value × Value) → Ordering
  | [], [] => .eq
  | [], _ :: _ => .lt
  | _ :: _, [] => .gt
  | (k, v) :: xs, (l, w) :: ys => ((order k l).then (order v w)).then (orderEntries xs ys)

end

def lookup (key : Value) : List (Value × Value) → Option Value
  | [] => Option.none
  | (k, v) :: rest => if order k key == .eq then some v else lookup key rest

mutual

def equal : Value → Value → Bool
  | undefined _, undefined _ => true
  | none, none => true
  | text s, text t => s == t
  | list _ xs, list _ ys => equalItems xs ys
  | map xs, map ys => xs.length == ys.length && equalEntries xs ys
  | a, b =>
    match comparable? a b with
    | some (.ints m n) => m == n
    | some (.reals x y) => x == y
    | Option.none => false

def equalItems : List Value → List Value → Bool
  | [], [] => true
  | x :: xs, y :: ys => equal x y && equalItems xs ys
  | _, _ => false

/-- Whether each entry of the first list has an equal value under its key in the second. -/
def equalEntries : List (Value × Value) → List (Value × Value) → Bool
  | [], _ => true
  | (k, v) :: xs, ys =>
    (match lookup k ys with
      | some w => equal v w
      | Option.none => false) && equalEntries xs ys

end

/-- Entries with `value` under `key`, in the order of keys; an equal key stays as it was. -/
def insertEntry (key value : Value) : List (Value × Value) → List (Value × Value)
  | [] => [(key, value)]
  | (k, v) :: rest =>
    match order key k with
    | .eq => (k, value) :: rest
    | .lt => (key, value) :: (k, v) :: rest
    | .gt => (k, v) :: insertEntry key value rest

/-- The map with these entries, of which the last with a key counts. -/
def mapOf (entries : List (Value × Value)) : Value :=
  map (entries.foldl (fun done e => insertEntry e.1 e.2 done) [])

def isUndefined : Value → Bool
  | undefined _ => true
  | _ => false

/-- Whether a value counts as true; an undefined one is an error, unless it is silent. -/
def truth : Value → Except EvalError Bool
  | undefined silent => if silent then .ok false else .error .undefinedValue
  | none => .ok false
  | bool b => .ok b
  | int n => .ok (n != 0)
  | real x => .ok (x != 0.0)
  | text s => .ok (s != "")
  | list _ items => .ok !items.isEmpty
  | map entries => .ok !entries.isEmpty

end Value
end Stencil.Expression
