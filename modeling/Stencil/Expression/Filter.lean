import Stencil.Expression.Arithmetic
import Stencil.Identifier.Casing
import Stencil.Identifier.Plural

/-!
# Filters

The functions that an expression may apply with a bar. All but one change the text of their input;
`join` puts the items of a list together. Their names are those of `FILTERS`.
-/
namespace Stencil.Expression

inductive Filter
  | classify | dasherize | camelize | underscore | constantize | pluralize | lower | upper | join
  deriving DecidableEq, Repr

namespace Filter

def all : List Filter :=
  [classify, dasherize, camelize, underscore, constantize, pluralize, lower, upper, join]

def name : Filter → String
  | classify => "classify"
  | dasherize => "dasherize"
  | camelize => "camelize"
  | underscore => "underscore"
  | constantize => "constantize"
  | pluralize => "pluralize"
  | lower => "lower"
  | upper => "upper"
  | join => "join"

def ofName? (s : String) : Option Filter := all.find? fun f => f.name == s

/-- What a filter makes of a text; `join` leaves it as it is. -/
def onText : Filter → String → String
  | classify => Identifier.classCase
  | dasherize => Identifier.dashCase
  | camelize => Identifier.camelCase
  | underscore => Identifier.snakeCase
  | constantize => Identifier.constantCase
  | pluralize => Identifier.Plural.plural
  | lower => Unicode.toLower
  | upper => Unicode.toUpper
  | join => id

/-- The items of a list as texts with a separator between them. -/
def joinItems (input : Value) (arguments : List Value) : Except EvalError Value := do
  let items ← match input with
    | .list _ items => pure items
    | _ => .error .badArguments
  let separator ← match arguments with
    | [] | [.none] => pure ""
    | [.undefined _] => .error .undefinedValue
    | [v] => pure v.display
    | _ => .error .badArguments
  pure (.text (separator.intercalate (items.map Value.display)))

def apply (f : Filter) (input : Value) (arguments : List Value) : Except EvalError Value :=
  if input.isUndefined then .error .undefinedValue
  else match f with
    | join => joinItems input arguments
    | f =>
      if arguments.isEmpty then .ok (.text (f.onText input.display)) else .error .badArguments

end Filter
end Stencil.Expression
