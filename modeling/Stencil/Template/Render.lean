import Stencil.Failure
import Stencil.Template.Context
import Stencil.Template.Placeholder
import Stencil.Expression.Parser

/-!
# Rendering templates

Every placeholder is replaced by the text of its expression's value; what a placeholder gives is not
looked at again. An expression may use the names in `Context.names` only, wherever in it they
stand.
-/
namespace Stencil.Template

/-- The least of several texts. -/
def least? : List String → Option String
  | [] => none
  | s :: rest =>
    match least? rest with
    | some t => some (if s < t then s else t)
    | none => some s

/-- The first, in the order of texts, of the names that an expression must not use. -/
def unknownName? (e : Expression.Expr) : Option String :=
  least? (e.names.filter fun v => !Context.names.contains v)

/-- The text of a placeholder with this body (`ExpressionRenderer.evaluate`). -/
def evaluate (c : Context) (body : List Char) : Except TemplateFault (List Char) :=
  let source := Text.stripWhile Unicode.isBlank body
  let text := String.ofList source
  if source.isEmpty then .error .emptyPlaceholder
  else match Expression.parse source with
    | .error e => .error (.notAnExpression text e)
    | .ok e =>
      match unknownName? e with
      | some v => .error (.unknownVariable v text)
      | none =>
        match e.eval c.scope with
        | .error e => .error (.evaluation text e)
        | .ok v => .ok v.display.toList

/-- The text of several pieces, placeholders by `value`. -/
def renderPieces (value : List Char → Except TemplateFault (List Char)) :
    List Piece → Except TemplateFault (List Char)
  | [] => .ok []
  | .char c :: rest => do pure (c :: (← renderPieces value rest))
  | .placeholder body :: rest => do
    let text ← value body
    pure (text ++ (← renderPieces value rest))
  | .unterminated :: _ => .error .unterminated

/-- What turns a template into text: a function of the path that errors name, the template and the
context. -/
abbrev Renderer := (origin template : String) → Context → Except Failure String

/-- Renders the placeholders of a template (`ExpressionRenderer.render`). -/
def render : Renderer := fun origin template c =>
  match renderPieces (evaluate c) (pieces template.toList) with
  | .ok text => .ok (String.ofList text)
  | .error fault => .error (.template origin fault)

/-- Gives every template as it is. -/
def verbatim : Renderer := fun _ template _ => .ok template

end Stencil.Template
