/-!
# What can be wrong with a glob pattern

The cases are those of `globset` 0.4; the words are not.
-/
namespace Stencil.Glob

/-- Why a text is no pattern. -/
inductive Error
  | unclosedClass
  | invalidRange (first last : Char)
  | unopenedAlternates
  | unclosedAlternates
  | danglingEscape
  deriving DecidableEq, Repr

def Error.describe : Error → String
  | .unclosedClass => "character class is not closed"
  | .invalidRange first last =>
    "invalid range, '" ++ String.ofList [first] ++ "' comes after '" ++ String.ofList [last] ++ "'"
  | .unopenedAlternates => "a closing brace has no opening one"
  | .unclosedAlternates => "an opening brace has no closing one"
  | .danglingEscape => "a backslash at the end escapes nothing"

end Stencil.Glob
