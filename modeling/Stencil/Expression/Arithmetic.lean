import Stencil.Expression.Value

/-!
# Operators

What the operators make of values. Division of whole numbers leaves a remainder that is never
negative; the plain division always gives a double. The operators are those of `minijinja` 2.21.0.
-/
namespace Stencil.Expression.Value

/-- A whole number as the result of an operation, which must fit 128 bits with a sign. -/
def checked (n : Int) : Except EvalError Value :=
  if fits n then .ok (int n) else .error .arithmetic

def arithmetic (ints : Int → Int → Except EvalError Value) (reals : Float → Float → Float)
    (a b : Value) : Except EvalError Value :=
  match numbers? a b with
  | some (.ints m n) => ints m n
  | some (.reals x y) => .ok (real (reals x y))
  | Option.none => .error .invalidOperation

/-- How often a text or a list is to be repeated. -/
def count (v : Value) : Except EvalError Nat :=
  match v.toInt? with
  | some n => if 0 ≤ n ∧ n < twoTo 64 then .ok n.toNat else .error .invalidOperation
  | Option.none => .error .invalidOperation

/-- `items` one after another `n` times. -/
def repeated {α : Type} (items : List α) (n : Nat) : List α := (List.replicate n items).flatten

/-- Sum of numbers, or one text or list after another. -/
def add (a b : Value) : Except EvalError Value :=
  match a, b with
  | text s, text t => .ok (text (s ++ t))
  | list _ xs, list _ ys => .ok (list true (xs ++ ys))
  | a, b => arithmetic (fun m n => checked (m + n)) (· + ·) a b

/-- Product of numbers, or a text or list repeated. -/
def multiply (a b : Value) : Except EvalError Value :=
  match a, b with
  | text s, n | n, text s => do
    pure (text (String.ofList (repeated s.toList (← count n))))
  | list _ xs, n | n, list _ xs => do pure (list true (repeated xs (← count n)))
  | a, b => arithmetic (fun m n => checked (m * n)) (· * ·) a b

def divide (a b : Value) : Except EvalError Value :=
  match a.toReal?, b.toReal? with
  | some x, some y => .ok (real (x / y))
  | _, _ => .error .invalidOperation

/-- The whole quotient of doubles whose remainder is not negative. -/
def realQuotient (x y : Float) : Float :=
  let q := Decimal.truncate (x / y)
  if Decimal.remainder x y < 0 then if y > 0 then q - 1 else q + 1 else q

/-- The whole quotient whose remainder is not negative. -/
def divideWhole : Value → Value → Except EvalError Value :=
  arithmetic (fun m n => if n = 0 then .error .arithmetic else checked (m / n)) realQuotient

/-- The remainder: of whole numbers never negative, of doubles with the sign of the first. -/
def modulo : Value → Value → Except EvalError Value :=
  arithmetic (fun m n => if n = 0 then .error .arithmetic else checked (m % n)) Decimal.remainder

/-- The power of whole numbers, which must not grow beyond the range on the way. -/
def wholePower (m n : Int) : Except EvalError Value :=
  if n < 0 ∨ n ≥ twoTo 32 then .error .arithmetic
  else if m.natAbs ≤ 1 then
    checked (if n = 0 then 1 else if m = 0 then 0 else if m = 1 ∨ n % 2 = 0 then 1 else -1)
  else if n > 127 then .error .arithmetic
  else checked (Int.pow m n.toNat)

def power : Value → Value → Except EvalError Value := arithmetic wholePower Float.pow

def negate : Value → Except EvalError Value
  | real x => .ok (real (-x))
  | int n =>
    if n = twoTo 127 ∨ (fits n ∧ fits (-n)) then .ok (int (-n)) else .error .arithmetic
  | _ => .error .invalidOperation

def binary (op : BinaryOp) (a b : Value) : Except EvalError Value :=
  match op with
  | .add => add a b
  | .subtract => arithmetic (fun m n => checked (m - n)) (· - ·) a b
  | .multiply => multiply a b
  | .divide => divide a b
  | .divideWhole => divideWhole a b
  | .modulo => modulo a b
  | .power => power a b
  | .concatenate => .ok (text (a.display ++ b.display))

/-- Whether `part` occurs in `s`. -/
def textContains (s part : String) : Bool :=
  let rec go : List Char → Bool
    | [] => part.toList.isEmpty
    | c :: rest => part.toList.isPrefixOf (c :: rest) || go rest
  go s.toList

/-- Whether a value lies in a container: a text, a list, or the keys of a map. -/
def memberOf (v container : Value) : Except EvalError Bool :=
  match container with
  | undefined silent => if silent then .ok false else .error .undefinedValue
  | text s => .ok (textContains s v.display)
  | list _ items => .ok (items.any fun i => equal i v)
  | map entries => .ok (lookup v entries).isSome
  | _ => .error .invalidOperation

/-- Whether a relation holds between two values. -/
def relate (r : Relation) (a b : Value) : Except EvalError Bool :=
  match r with
  | .equal => .ok (equal a b)
  | .unequal => .ok !(equal a b)
  | .less => .ok (order a b == .lt)
  | .lessOrEqual => .ok (order a b != .gt)
  | .greater => .ok (order a b == .gt)
  | .greaterOrEqual => .ok (order a b != .lt)
  | .memberOf => memberOf a b
  | .notMemberOf => do pure !(← memberOf a b)

/-! ## Items and slices -/

/-- The place that an index names in a container of `length` items; negative ones count from the
end. -/
def place? (index : Value) (length : Nat) : Option Nat :=
  match index.toInt? with
  | some i =>
    if i < -(twoTo 63 : Int) ∨ i ≥ twoTo 63 then Option.none
    else if i ≥ 0 then some i.toNat
    else if -i ≤ length then some (length - (-i).toNat) else Option.none
  | Option.none => Option.none

/-- The item of a container under an index; a missing one is undefined. -/
def item (container index : Value) : Except EvalError Value :=
  let found : Option Value :=
    match container with
    | text s =>
      let cs := s.toList
      ((place? index cs.length).bind (cs[·]?)).map fun c => text (String.ofList [c])
    | list _ items => (place? index items.length).bind (items[·]?)
    | map entries => lookup index entries
    | _ => Option.none
  match container with
  | undefined _ => .error .undefinedValue
  | _ => .ok (found.getD (undefined false))

/-- The field of a value; only maps have fields. -/
def field (container : Value) (name : String) : Except EvalError Value :=
  match container with
  | undefined _ => .error .undefinedValue
  | map entries => .ok ((lookup (text name) entries).getD (undefined false))
  | _ => .ok (undefined false)

/-- A bound of a slice, if one is given. -/
def bound? : Value → Except EvalError (Option Int)
  | none => .ok Option.none
  | v =>
    match v.toInt? with
    | some i =>
      if -(twoTo 63 : Int) ≤ i ∧ i < twoTo 63 then .ok (some i) else .error .invalidOperation
    | Option.none => .error .invalidOperation

/-- Every `step`-th item, the first one included. -/
def everyNth {α : Type} (step : Nat) : Nat → List α → List α
  | _, [] => []
  | 0, x :: rest => x :: everyNth step (step - 1) rest
  | wait + 1, _ :: rest => everyNth step wait rest

/-- The items from `start` up to `stop`. Bounds below zero count from the end; one that lies before
the first item counts as beyond the last. -/
def forward {α : Type} (start stop : Option Int) (step : Nat) (items : List α) : List α :=
  let length := items.length
  let resolve (i : Int) : Nat :=
    if i ≥ 0 then i.toNat
    else if (length : Int) + i ≥ 0 then ((length : Int) + i).toNat
    else twoTo 64
  let first := resolve (start.getD 0)
  let last := (stop.map resolve).getD length
  everyNth step 0 ((items.drop first).take (last - first))

/-- The items from `start` backwards; a stop at the first item takes it along. -/
def backward {α : Type} (start stop : Option Int) (step : Nat) (items : List α) : List α :=
  let length := items.length
  let resolve (i : Int) : Nat := if i ≥ 0 then i.toNat else ((length : Int) + i).toNat
  let first := min ((start.map resolve).getD length) (length - 1)
  let last := (stop.map resolve).getD 0
  let taken := if last = 0 then first + 1 else first - last
  if items.isEmpty then []
  else everyNth step 0 ((items.take (first + 1)).reverse.take taken)

def sliceItems {α : Type} (start stop : Option Int) (step : Int) (items : List α) : List α :=
  if step > 0 then forward start stop step.toNat items
  else backward start stop (-step).toNat items

def slice (container start stop step : Value) : Except EvalError Value := do
  if container.isUndefined then .error .undefinedValue
  else
    let start ← bound? start
    let stop ← bound? stop
    let step := (← bound? step).getD 1
    if step = 0 then .error .invalidOperation
    else match container with
      | text s => pure (text (String.ofList (sliceItems start stop step s.toList)))
      | list _ items => pure (list true (sliceItems start stop step items))
      | none => pure (list false [])
      | _ => .error .invalidOperation

/-- The items that a value gives when it is spread over arguments. -/
def spread : Value → Except EvalError (List Value)
  | list _ items => .ok items
  | text s => .ok (s.toList.map fun c => text (String.ofList [c]))
  | map entries => .ok (entries.map (·.1))
  | none | undefined _ => .ok []
  | _ => .error .invalidOperation

end Stencil.Expression.Value
