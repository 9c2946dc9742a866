import Stencil.Yaml.Error
import Stencil.Json.Reader

/-!
# A place in a YAML text

`Cursor` is the rest of a text with the line and column at which it starts. Besides the usual line
ends YAML knows the next-line character and the two separators of Unicode.

This module and those that build on it read the YAML that `serde_yaml` 0.9 reads.
-/
namespace Stencil.Yaml

/-- A rest of a text and where it starts. -/
structure Cursor where
  rest : List Char
  index : Nat
  line : Nat
  column : Nat

def isBreak (c : Char) : Bool :=
  c == '\n' || c == '\r' || c.toNat == 0x85 || c.toNat == 0x2028 || c.toNat == 0x2029

def isBlank (c : Char) : Bool := c == ' ' || c == '\t'

/-- Whether nothing but a blank, a line end or the end of the text comes. -/
def endsWord (c : Option Char) : Bool := c.all fun c => isBlank c || isBreak c

def isNameChar (c : Char) : Bool := c.isAlphanum || c == '_' || c == '-'

namespace Cursor

/-- The character `n` places ahead. -/
def peek (s : Cursor) (n : Nat) : Option Char := s.rest[n]?

/-- Passes over `n` characters of the present line. -/
def skip (s : Cursor) (n : Nat) : Cursor :=
  { s with rest := s.rest.drop n, index := s.index + n, column := s.column + n }

/-- Passes over a line end, if one comes. Gives what it stands for in a text: a line feed, or one of
the Unicode separators. -/
def readBreak (s : Cursor) : List Char × Cursor :=
  match s.rest with
  | '\r' :: '\n' :: rest => (['\n'], ⟨rest, s.index + 2, s.line + 1, 0⟩)
  | c :: rest =>
    if isBreak c then
      (if c.toNat ≥ 0x2028 then [c] else ['\n'], ⟨rest, s.index + 1, s.line + 1, 0⟩)
    else ([], s)
  | [] => ([], s)

/-- Takes characters of the present line as long as `p` holds. -/
def takeWhile (s : Cursor) (p : Char → Bool) : List Char × Cursor :=
  let run := s.rest.takeWhile p
  (run, s.skip run.length)

/-- Passes over blanks and a comment up to the end of the line; fails if anything else comes. -/
def finishLine (s : Cursor) (error : Error) : Except Error Cursor :=
  let s := (s.takeWhile isBlank).2
  let s := if s.peek 0 = some '#' then (s.takeWhile (!isBreak ·)).2 else s
  if s.rest.head?.all isBreak then .ok s.readBreak.2 else .error error

/-- Whether a document mark, three times `c`, stands here at the start of a line. -/
def isMark (s : Cursor) (c : Char) : Bool :=
  s.column == 0 && s.rest.take 3 == [c, c, c] && endsWord (s.peek 3)

def isDocumentMark (s : Cursor) : Bool := s.isMark '-' || s.isMark '.'

end Cursor
end Stencil.Yaml
