import Stencil.Expression.Filter

/-!
# Evaluating expressions

An expression is evaluated with the values of its names. Of a choice and of `and` and `or` only the
parts that are needed are evaluated. There are no tests and no functions, so a test or a call that
is reached is an error. This is what `minijinja` 2.21.0 does in an empty environment in which
undefined values are strict.
-/
namespace Stencil.Expression

abbrev Scope := List (String × Value)

namespace Expr

mutual

/-- The value of an expression. A name without value is undefined. -/
def eval (scope : Scope) : Expr → Except EvalError Value
  | literal l => .ok l.value
  | name n => .ok ((scope.lookup n).getD (.undefined false))
  | list items => do pure (.list false (← evalList scope items))
  | map entries => do pure (Value.mapOf (← evalEntries scope entries))
  | negate e => do (← eval scope e).negate
  | not e => do pure (.bool !(← (← eval scope e).truth))
  | binary op l r => do
    let a ← eval scope l
    let b ← eval scope r
    Value.binary op a b
  | and l r => do
    let a ← eval scope l
    if ← a.truth then eval scope r else pure a
  | or l r => do
    let a ← eval scope l
    if ← a.truth then pure a else eval scope r
  | compare first chain => do
    let a ← eval scope first
    pure (.bool (← evalChain scope a chain))
  | choose value condition otherwise => do
    if ← (← eval scope condition).truth then eval scope value
    else evalOr (.undefined true) scope otherwise
  | field e n => do (← eval scope e).field n
  | item e i => do
    let container ← eval scope e
    container.item (← eval scope i)
  | slice e start stop step => do
    let container ← eval scope e
    let start ← evalOr .none scope start
    let stop ← evalOr .none scope stop
    let step ← evalOr .none scope step
    container.slice start stop step
  | call callee arguments => do
    let failure : EvalError := match callee with
      | name n => .unknownFunction n
      | field _ n => .unknownMethod n
      | _ => .notCallable
    let _ ← eval scope callee
    let _ ← evalArguments scope arguments
    .error failure
  | filter n input arguments => do
    let v ← eval scope input
    let (vs, named) ← evalArguments scope arguments
    match Filter.ofName? n with
    | some f => if named then .error .badArguments else f.apply v vs
    | none => .error (.unknownFilter n)
  | test n input arguments => do
    let _ ← eval scope input
    let _ ← evalArguments scope arguments
    .error (.unknownTest n)

def evalList (scope : Scope) : List Expr → Except EvalError (List Value)
  | [] => .ok []
  | e :: rest => do
    let v ← eval scope e
    pure (v :: (← evalList scope rest))

def evalEntries (scope : Scope) : List (Expr × Expr) → Except EvalError (List (Value × Value))
  | [] => .ok []
  | (k, e) :: rest => do
    let key ← eval scope k
    let v ← eval scope e
    pure ((key, v) :: (← evalEntries scope rest))

/-- Whether the relations behind `left` hold; the first that does not ends the search. -/
def evalChain (scope : Scope) (left : Value) : List (Relation × Expr) → Except EvalError Bool
  | [] => .ok true
  | (r, e) :: rest => do
    let right ← eval scope e
    if ← Value.relate r left right then evalChain scope right rest else pure false

/-- The value of a part that may be left out. -/
def evalOr (default : Value) (scope : Scope) : Option Expr → Except EvalError Value
  | none => .ok default
  | some e => eval scope e

/-- The values of arguments, and whether some are passed by name. -/
def evalArguments (scope : Scope) :
    List (Passing × Expr) → Except EvalError (List Value × Bool)
  | [] => .ok ([], false)
  | (passing, e) :: rest => do
    let v ← eval scope e
    let first ← match passing with
      | .positional => pure ([v], false)
      | .spread => do pure (← v.spread, false)
      | .named _ => pure ([], true)
      | .spreadNamed =>
        match v with
        | .map _ => pure ([], true)
        | _ => .error .badArguments
    let (more, named) ← evalArguments scope rest
    pure (first.1 ++ more, first.2 || named)

end

end Expr
end Stencil.Expression
