/-!
# What can be wrong with a YAML text

The cases are those of `serde_yaml` 0.9; the words are not.
-/
namespace Stencil.Yaml

/-- Why a text is not a YAML document that stands for one value. -/
inductive Error
  /-- A character that no YAML text may hold. -/
  | controlCharacter
  /-- A character that starts no token. -/
  | unexpectedCharacter
  /-- A key that could be one only on its own line, or had to be one, has no colon. -/
  | missingColon
  /-- A block entry, key or value where none may start. -/
  | notAllowedHere
  /-- A quoted text without closing quote. -/
  | unclosedQuote
  /-- A document mark inside a quoted text. -/
  | documentMark
  /-- An unknown escape, or one for no character. -/
  | badEscape
  /-- A tab where indentation is expected. -/
  | tabIndentation
  | badDirective
  | badTag
  | badAnchor
  | badBlockHeader
  /-- A token where a node is expected. -/
  | expectedNode
  /-- A token in a block collection that neither continues nor ends it. -/
  | expectedEntry
  /-- A flow collection that is not closed or not separated by commas. -/
  | unclosedFlow
  /-- Text between two documents without a document mark. -/
  | expectedDocument
  | unknownTagHandle
  | unknownAlias
  | tooDeep
  | tooManyAliases
  | severalDocuments
  /-- A mapping whose key is no scalar. -/
  | keyNotScalar
  /-- A value with a tag of the document's own. -/
  | taggedValue
  /-- A scalar that does not have the form of its tag. -/
  | badScalar
  | numberOutOfRange
  deriving DecidableEq, Repr

def Error.describe : Error → String
  | .controlCharacter => "control characters are not allowed"
  | .unexpectedCharacter => "found a character that cannot start any token"
  | .missingColon => "could not find the colon of a key"
  | .notAllowedHere => "an entry is not allowed in this context"
  | .unclosedQuote => "a quoted text is not closed"
  | .documentMark => "a document mark stands inside a quoted text"
  | .badEscape => "unknown escape in a quoted text"
  | .tabIndentation => "a tab stands where indentation is expected"
  | .badDirective => "malformed directive"
  | .badTag => "malformed tag"
  | .badAnchor => "malformed anchor or alias"
  | .badBlockHeader => "malformed header of a block scalar"
  | .expectedNode => "expected a node"
  | .expectedEntry => "expected another entry or the end of a block"
  | .unclosedFlow => "expected a comma or a closing bracket"
  | .expectedDocument => "expected the start of a document"
  | .unknownTagHandle => "undefined tag handle"
  | .unknownAlias => "unknown anchor"
  | .tooDeep => "nested too deeply"
  | .tooManyAliases => "too many aliases"
  | .severalDocuments => "more than one document"
  | .keyNotScalar => "a key is not a scalar"
  | .taggedValue => "a tagged value is not allowed"
  | .badScalar => "a scalar does not fit its tag"
  | .numberOutOfRange => "number out of range"

end Stencil.Yaml
