/-!
# Placeholders

A template is text with placeholders: an expression between two opening and two closing braces.
Closing braces inside of a quoted text do not end a placeholder. `pieces` takes a template apart in
one pass, in which `bodyPieces` finds the end that `find_close` looks for.
-/
namespace Stencil.Template

inductive Piece
  /-- A character of plain text. -/
  | char (c : Char)
  /-- What stands between the braces of a placeholder. -/
  | placeholder (body : List Char)
  /-- A placeholder that is not closed; it reaches to the end. -/
  | unterminated
  deriving DecidableEq, Repr

mutual

/-- The pieces of a text outside of placeholders. -/
def pieces : List Char → List Piece
  | [] => []
  | '\x7b' :: '\x7b' :: rest => bodyPieces none [] rest
  | c :: rest => .char c :: pieces rest

/-- The pieces of a text inside of a placeholder. `quote` is the mark of the quoted text that is
open, and `body` what was read of the placeholder, in reverse. A backslash in a quoted text takes
the next character along. -/
def bodyPieces : Option Char → List Char → List Char → List Piece
  | _, _, [] => [.unterminated]
  | none, body, '\x7d' :: '\x7d' :: rest => .placeholder body.reverse :: pieces rest
  | none, body, c :: rest =>
    bodyPieces (if c = '"' ∨ c = '\'' then some c else none) (c :: body) rest
  | some _, _, ['\\'] => [.unterminated]
  | some q, body, '\\' :: c :: rest => bodyPieces (some q) (c :: '\\' :: body) rest
  | some q, body, c :: rest => bodyPieces (if c = q then none else some q) (c :: body) rest

end

end Stencil.Template
