import Stencil.Json.Number
import Stencil.Yaml.Error
import Stencil.Glob.Error
import Stencil.Expression.Error
import Stencil.Disk.Fault

/-!
# Failures of a generation run

`Failure` lists what can go wrong with a run, each case with what it is about, and
`Failure.message` gives its one-line text.
-/
namespace Stencil

inductive OptionFault
  | required
  /-- A name without any letter or digit. -/
  | noLetterOrDigit (name : String)
  /-- A value outside the domain of the option. -/
  | unknownValue (given : String) (expected : List String)
  | notText
  /-- A text, or some other value, where a truth value is expected. -/
  | notBoolean (given : Option String)
  /-- A condition on a switch that must not decide which files exist. -/
  | runModeSwitch (flag : String)
  | notJson (problem : Json.ReadError)
  deriving DecidableEq, Repr

/-- How a value of a manifest misses the manifest's schema. -/
inductive SchemaFault
  | wrongType
  | missingField (field : String)
  | wrongLength
  | unknownVariant (name : String)
  deriving DecidableEq, Repr

/-- What is wrong with a schematic's manifest or its rules. -/
inductive ManifestFault
  /-- No manifest under any of these names. -/
  | notFound (tried : List String)
  | notReadable (problem : Yaml.Error)
  | schema (problem : SchemaFault)
  /-- A condition that can never be meant. -/
  | condition (field : String) (fault : OptionFault)
  | badPattern (pattern : String) (problem : Glob.Error)
  | badIgnorePattern (pattern : String) (problem : Glob.Error)
  | noTemplates
  deriving DecidableEq, Repr

inductive TemplateFault
  | unterminated
  | emptyPlaceholder
  | notAnExpression (source : String) (problem : Expression.ParseError)
  | unknownVariable (name source : String)
  | evaluation (source : String) (problem : Expression.EvalError)
  deriving DecidableEq, Repr

/-- Why a run, or one file of it, fails (`Error`). -/
inductive Failure
  /-- Missing or malformed options. -/
  | invalidOptions (field : String) (fault : OptionFault)
  | unknownSchematic (name : String) (available : List String)
  | manifest (path : String) (fault : ManifestFault)
  | template (path : String) (fault : TemplateFault)
  /-- A destination or an output path outside the workspace. -/
  | pathEscape (path : String)
  /-- The flat layout moves two files to one path. -/
  | flatCollision (path first second : String)
  /-- Paths that are occupied. -/
  | destinationConflict (paths : List String)
  | duplicatePath (path : String)
  | io (fault : Disk.Fault)
  deriving DecidableEq, Repr

def Json.ReadError.describe : Json.ReadError → String
  | .unexpectedEnd => "unexpected end of text"
  | .unexpected c => "unexpected character '" ++ String.ofList [c] ++ "'"
  | .badNumber => "invalid number"
  | .numberOutOfRange => "number out of range"
  | .badEscape => "invalid escape"
  | .controlCharacter => "control character in a string"
  | .loneSurrogate => "lone surrogate in an escape"
  | .tooDeep => "nested too deeply"
  | .trailingText => "trailing characters"
  | .notAnObject => "expected an object"

def OptionFault.describe : OptionFault → String
  | .required => "is required"
  | .noLetterOrDigit name => "'" ++ name ++ "' must contain at least one letter or digit"
  | .unknownValue given expected =>
    "unknown value '" ++ given ++ "' (expected one of: " ++ ", ".intercalate expected ++ ")"
  | .notText => "expected a string"
  | .notBoolean none => "expected a boolean"
  | .notBoolean (some given) => "expected a boolean, got '" ++ given ++ "'"
  | .runModeSwitch flag => "'" ++ flag ++ "' is a run-mode switch and cannot gate templates"
  | .notJson problem => "failed to parse options as JSON: " ++ problem.describe

def SchemaFault.describe : SchemaFault → String
  | .wrongType => "a value has the wrong type"
  | .missingField field => "missing field " ++ field
  | .wrongLength => "a list has the wrong length"
  | .unknownVariant name => "unknown variant " ++ name

def ManifestFault.describe : ManifestFault → String
  | .notFound tried => "no manifest found (tried: " ++ ", ".intercalate tried ++ ")"
  | .notReadable problem => "invalid manifest format: " ++ problem.describe
  | .schema problem => "invalid manifest schema: " ++ problem.describe
  | .condition field fault => "Invalid options: " ++ field ++ ": " ++ fault.describe ++ "."
  | .badPattern pattern problem => "invalid pattern '" ++ pattern ++ "': " ++ problem.describe
  | .badIgnorePattern pattern problem =>
    "invalid ignore pattern '" ++ pattern ++ "': " ++ problem.describe
  | .noTemplates => "template directory does not exist"

def TemplateFault.describe : TemplateFault → String
  | .unterminated => "unterminated placeholder"
  | .emptyPlaceholder => "empty placeholder"
  | .notAnExpression source problem => "cannot parse '" ++ source ++ "': " ++ problem.describe
  | .unknownVariable name source => "unknown variable '" ++ name ++ "' in '" ++ source ++ "'"
  | .evaluation source problem => "cannot evaluate '" ++ source ++ "': " ++ problem.describe

def Failure.message : Failure → String
  | .invalidOptions field fault => "Invalid options: " ++ field ++ ": " ++ fault.describe ++ "."
  | .unknownSchematic name available =>
    "Unknown schematic '" ++ name ++ "' (available: " ++ ", ".intercalate available ++ ")."
  | .manifest path fault => "Manifest error in '" ++ path ++ "': " ++ fault.describe ++ "."
  | .template path fault => "Template error in '" ++ path ++ "': " ++ fault.describe ++ "."
  | .pathEscape path => "Path '" ++ path ++ "' escapes the workspace root."
  | .flatCollision path first second =>
    "Flat layout maps both '" ++ first ++ "' and '" ++ second ++ "' to '" ++ path ++ "'."
  | .destinationConflict paths =>
    "Destination already contains '" ++ "', '".intercalate paths ++ "'."
  | .duplicatePath path => "Duplicate output path '" ++ path ++ "'."
  | .io fault => "IO error: " ++ fault.describe ++ "."

end Stencil
