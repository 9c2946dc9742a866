/-!
# Expressions

The form of the expressions that placeholders hold, and the variables that occur in them. They are
the expressions of `minijinja` 2.21.0.
-/
namespace Stencil.Expression

/-- A value that is written down. -/
inductive Literal
  | none
  | bool (value : Bool)
  | int (value : Nat)
  | real (value : Float)
  | text (value : String)
  deriving Repr, Inhabited

inductive BinaryOp
  | add | subtract | multiply | divide | divideWhole | modulo | power | concatenate
  deriving DecidableEq, Repr

inductive Relation
  | equal | unequal | less | lessOrEqual | greater | greaterOrEqual | memberOf | notMemberOf
  deriving DecidableEq, Repr

/-- How an argument is passed. -/
inductive Passing
  | positional
  | named (name : String)
  /-- The items of a list, one after another. -/
  | spread
  /-- The entries of a map, by name. -/
  | spreadNamed
  deriving DecidableEq, Repr

inductive Expr
  | literal (value : Literal)
  | name (text : String)
  | list (items : List Expr)
  | map (entries : List (Expr × Expr))
  | negate (operand : Expr)
  | not (operand : Expr)
  | binary (op : BinaryOp) (left right : Expr)
  | and (left right : Expr)
  | or (left right : Expr)
  /-- A value, and relations each between the value before it and the one behind it. -/
  | compare (first : Expr) (chain : List (Relation × Expr))
  /-- `value` if `test` holds, and else `otherwise`, which may be left out. -/
  | choose (value test : Expr) (otherwise : Option Expr)
  | field (target : Expr) (name : String)
  | item (target index : Expr)
  | slice (target : Expr) (start stop step : Option Expr)
  | call (callee : Expr) (arguments : List (Passing × Expr))
  | filter (name : String) (input : Expr) (arguments : List (Passing × Expr))
  | test (name : String) (input : Expr) (arguments : List (Passing × Expr))
  deriving Inhabited

namespace Expr

mutual

/-- The variables of an expression in the order of their occurrence, wherever they stand: also in
parts that are never evaluated. -/
def names : Expr → List String
  | literal _ => []
  | name text => [text]
  | list items => namesOfList items
  | map entries => namesOfEntries entries
  | negate e | not e => names e
  | binary _ l r | and l r | or l r => names l ++ names r
  | compare first chain => names first ++ namesOfChain chain
  | choose value condition otherwise =>
    names condition ++ names value ++ namesOfOption otherwise
  | field e _ => names e
  | item e i => names e ++ names i
  | slice e start stop step =>
    names e ++ namesOfOption start ++ namesOfOption stop ++ namesOfOption step
  | call callee arguments => names callee ++ namesOfArguments arguments
  | filter _ input arguments | test _ input arguments =>
    names input ++ namesOfArguments arguments

def namesOfList : List Expr → List String
  | [] => []
  | e :: rest => names e ++ namesOfList rest

def namesOfEntries : List (Expr × Expr) → List String
  | [] => []
  | (k, v) :: rest => names k ++ names v ++ namesOfEntries rest

def namesOfChain : List (Relation × Expr) → List String
  | [] => []
  | (_, e) :: rest => names e ++ namesOfChain rest

def namesOfArguments : List (Passing × Expr) → List String
  | [] => []
  | (_, e) :: rest => names e ++ namesOfArguments rest

/-- The variables of a part that may be left out. -/
def namesOfOption : Option Expr → List String
  | none => []
  | some e => names e

end

end Expr
end Stencil.Expression
