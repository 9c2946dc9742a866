/-!
# What can be wrong with an expression

The cases are those of `minijinja` 2.21.0; the words are not.
-/
namespace Stencil.Expression

/-- Why a text is no expression. -/
inductive ParseError
  /-- A character that starts no token. -/
  | unexpectedCharacter (found : Char)
  | unclosedString
  | badEscape
  | badNumber
  | unexpectedEnd
  /-- A token that fits no rule of the grammar at its place. -/
  | unexpectedToken
  /-- A positional argument after a named one. -/
  | argumentOrder
  | tooDeep
  deriving DecidableEq, Repr

def ParseError.describe : ParseError → String
  | .unexpectedCharacter c => "unexpected character '" ++ String.ofList [c] ++ "'"
  | .unclosedString => "unexpected end of string"
  | .badEscape => "bad string escape"
  | .badNumber => "invalid number"
  | .unexpectedEnd => "unexpected end of the expression"
  | .unexpectedToken => "unexpected token"
  | .argumentOrder => "a positional argument follows a named one"
  | .tooDeep => "nested too deeply"

/-- Why an expression has no value. -/
inductive EvalError
  /-- A missing attribute or item is used as a value. -/
  | undefinedValue
  | unknownFilter (name : String)
  | unknownTest (name : String)
  | unknownFunction (name : String)
  | unknownMethod (name : String)
  /-- A value that cannot be called. -/
  | notCallable
  /-- An operator or index that the kinds of its operands do not allow. -/
  | invalidOperation
  /-- Division by zero, or a result beyond the range of numbers. -/
  | arithmetic
  /-- Too few, too many or unsuitable arguments. -/
  | badArguments
  deriving DecidableEq, Repr

def EvalError.describe : EvalError → String
  | .undefinedValue => "undefined value"
  | .unknownFilter name => "filter " ++ name ++ " is unknown"
  | .unknownTest name => "test " ++ name ++ " is unknown"
  | .unknownFunction name => name ++ " is unknown"
  | .unknownMethod name => "there is no method named " ++ name
  | .notCallable => "value is not callable"
  | .invalidOperation => "invalid operation"
  | .arithmetic => "result is undefined or out of range"
  | .badArguments => "unsuitable arguments"

end Stencil.Expression
