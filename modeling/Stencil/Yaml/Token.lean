import Stencil.Yaml.Scalar
import Stencil.Yaml.Property

/-!
# Tokens of a YAML text

Block collections have no brackets: the scanner finds where they start and end from the columns,
and finds out that a token was a key only at the colon behind it. It therefore keeps for every
level of brackets the place of a token that may still turn out to be a key. It gives the tokens of
the scanner of `serde_yaml` 0.9.
-/
namespace Stencil.Yaml

inductive Token
  | directive (d : Directive)
  | documentStart
  | documentEnd
  | sequenceStart
  | mappingStart
  | blockEnd
  | openBracket
  | closeBracket
  | openBrace
  | closeBrace
  | entry
  | comma
  | key
  | value
  | alias (name : String)
  | anchor (name : String)
  | tag (handle suffix : String)
  | scalar (text : String) (isPlain : Bool)
  | streamEnd

/-- A token that a later colon makes a key: its number and place, and whether a colon has to
come. -/
structure Candidate where
  token : Nat
  index : Nat
  line : Nat
  column : Nat
  required : Bool

/-- The scanner: the text still to be read, the tokens so far, the columns of the open blocks, and
one possible key per level of brackets, the innermost level first. -/
structure Scanner where
  place : Cursor
  tokens : Array Token
  blocks : List Nat
  /-- The possible key outside of all brackets, or in the innermost ones. -/
  candidate : Option Candidate
  /-- The possible keys of the levels further out. -/
  outerCandidates : List (Option Candidate)
  keyAllowed : Bool

namespace Scanner

def inFlow (s : Scanner) : Bool := !s.outerCandidates.isEmpty

def push (s : Scanner) (t : Token) : Scanner := { s with tokens := s.tokens.push t }

/-- Adds a token of `n` characters and passes over them. -/
def take (s : Scanner) (t : Token) (n : Nat) : Scanner := { s.push t with place := s.place.skip n }

/-- Ends the blocks that start to the right of `column`; all of them if it is `none`. -/
def unroll (column : Option Nat) : List Nat → Scanner → Scanner
  | [], s => { s with blocks := [] }
  | b :: rest, s =>
    if column.all (· < b) then unroll column rest (s.push .blockEnd)
    else { s with blocks := b :: rest }

/-- Ends blocks outside of brackets. -/
def endBlocks (s : Scanner) (column : Option Nat) : Scanner :=
  if s.inFlow then s else unroll column s.blocks s

/-- Starts a block at `column` if none starts there or further right; its token goes to place
`at_`. -/
def startBlock (s : Scanner) (column at_ : Nat) (t : Token) : Scanner :=
  if s.inFlow || !s.blocks.head?.all (· < column) then s
  else { s with blocks := column :: s.blocks, tokens := s.tokens.insertIdx! at_ t }

/-- Gives up the possible key of this level. -/
def dropCandidate (s : Scanner) : Except Error Scanner :=
  match s.candidate with
  | some c => if c.required then .error .missingColon else .ok { s with candidate := none }
  | none => .ok s

/-- Makes the next token a possible key, if one is allowed here. -/
def saveCandidate (s : Scanner) : Except Error Scanner :=
  if s.keyAllowed then do
    let required := !s.inFlow && s.blocks.head? == some s.place.column
    let s ← s.dropCandidate
    let c : Candidate := ⟨s.tokens.size, s.place.index, s.place.line, s.place.column, required⟩
    pure { s with candidate := some c }
  else .ok s

/-- Whether a possible key can no longer be one: keys stay on their line and take up to 1024
characters. -/
def Candidate.isStale (c : Candidate) (s : Cursor) : Bool :=
  c.line < s.line || c.index + 1024 < s.index

def dropStale (s : Scanner) : Except Error Scanner := do
  let fresh (c : Option Candidate) : Except Error (Option Candidate) :=
    match c with
    | some k =>
      if Candidate.isStale k s.place then
        if k.required then .error .missingColon else .ok none
      else .ok (some k)
    | none => .ok none
  pure { s with candidate := ← fresh s.candidate,
                outerCandidates := ← s.outerCandidates.mapM fresh }

/-- Passes over blanks, comments and line ends. Where a key is allowed outside of brackets, a tab
is no blank. -/
def skipBlanks : Nat → Scanner → Scanner
  | 0, s => s
  | fuel + 1, s =>
    let place := s.place
    let place :=
      if place.column = 0 ∧ (place.peek 0).any (·.toNat == 0xFEFF) then place.skip 1 else place
    let place := (place.takeWhile fun c => c == ' ' || (c == '\t' && (s.inFlow || !s.keyAllowed))).2
    let place := if place.peek 0 = some '#' then (place.takeWhile (!isBreak ·)).2 else place
    if (place.peek 0).any isBreak then
      skipBlanks fuel { s with place := place.readBreak.2, keyAllowed := s.keyAllowed || !s.inFlow }
    else { s with place := place }

/-- An indicator that stands where a block may begin: the mark of an entry, of a key or of a
value. -/
def blockMark (s : Scanner) (start : Token) : Except Error Scanner :=
  if s.inFlow then .ok s
  else if !s.keyAllowed then .error .notAllowedHere
  else .ok (s.startBlock s.place.column s.tokens.size start)

/-- The colon of a value. A possible key becomes one. -/
def value (s : Scanner) : Except Error Scanner := do
  match s.candidate with
  | some k =>
    let s := { s with tokens := s.tokens.insertIdx! k.token .key, candidate := none,
                      keyAllowed := false }
    pure ((s.startBlock k.column k.token .mappingStart).take .value 1)
  | none =>
    let s ← s.blockMark .mappingStart
    pure ({ s with keyAllowed := !s.inFlow }.take .value 1)

def openFlow (s : Scanner) (t : Token) : Except Error Scanner := do
  let s ← s.saveCandidate
  pure ({ s with candidate := none, outerCandidates := s.candidate :: s.outerCandidates,
                 keyAllowed := true }.take t 1)

def closeFlow (s : Scanner) (t : Token) : Except Error Scanner := do
  let s ← s.dropCandidate
  let s := match s.outerCandidates with
    | c :: rest => { s with candidate := c, outerCandidates := rest }
    | [] => s
  pure ({ s with keyAllowed := false }.take t 1)

/-- Adds a token that may be a key. -/
def keyLike (s : Scanner) (read : Cursor → Except Error (Token × Cursor)) :
    Except Error Scanner := do
  let s ← s.saveCandidate
  let (t, place) ← read s.place
  pure { s.push t with place := place, keyAllowed := false }

/-- Whether a plain scalar starts with `c` and `next`. -/
def startsPlain (inFlow : Bool) (c : Char) (next : Option Char) : Bool :=
  if c == '-' then !next.any isBlank
  else if c == '?' || c == ':' then !inFlow && !endsWord next
  else !(",[]\x7b\x7d#&*!|>'\"%@\x60".toList.contains c)

def plainScalar (s : Scanner) : Except Error Scanner := do
  let s ← s.saveCandidate
  let indent := match s.blocks with
    | column :: _ => column + 1
    | [] => 0
  let (text, newLine, place) ← plain s.inFlow indent (s.place.rest.length + 1) [] Gap.none s.place
  pure { s.push (.scalar (String.ofList text) true) with place := place, keyAllowed := newLine }

def blockScalar (s : Scanner) (literal : Bool) : Except Error Scanner := do
  let s ← s.dropCandidate
  let (text, place) ← block literal s.blocks.head? (s.place.skip 1)
  pure { s.push (.scalar (String.ofList text) false) with place := place, keyAllowed := true }

def quotedScalar (s : Scanner) (single : Bool) : Except Error Scanner :=
  s.keyLike fun place => do
    let (text, place) ← quoted single (place.rest.length + 1) [] (place.skip 1)
    pure (.scalar (String.ofList text) false, place)

/-- Ends all blocks before a mark or a directive. -/
def startDocumentLine (s : Scanner) : Except Error Scanner := do
  let s ← (s.endBlocks none).dropCandidate
  pure { s with keyAllowed := false }

/-- Reads one token, the blanks before it passed over. -/
def next (s : Scanner) (c : Char) : Except Error Scanner := do
  let after := s.place.peek 1
  if c == '%' && s.place.column == 0 then
    let s ← s.startDocumentLine
    let (d, place) ← directive (s.place.skip 1)
    pure { s.push (.directive d) with place := place }
  else if s.place.isMark '-' then
    pure ((← s.startDocumentLine).take .documentStart 3)
  else if s.place.isMark '.' then
    pure ((← s.startDocumentLine).take .documentEnd 3)
  else if c == '[' then s.openFlow .openBracket
  else if c == '{' then s.openFlow .openBrace
  else if c == ']' then s.closeFlow .closeBracket
  else if c == '}' then s.closeFlow .closeBrace
  else if c == ',' then
    let s ← s.dropCandidate
    pure ({ s with keyAllowed := true }.take .comma 1)
  else if c == '-' && endsWord after then
    let s ← (← s.blockMark .sequenceStart).dropCandidate
    pure ({ s with keyAllowed := true }.take .entry 1)
  else if c == '?' && (s.inFlow || endsWord after) then
    let s ← (← s.blockMark .mappingStart).dropCandidate
    pure ({ s with keyAllowed := !s.inFlow }.take .key 1)
  else if c == ':' && (s.inFlow || endsWord after) then s.value
  else if c == '*' then
    s.keyLike fun place => do
      let (name, place) ← anchorName (place.skip 1)
      pure (.alias name, place)
  else if c == '&' then
    s.keyLike fun place => do
      let (name, place) ← anchorName (place.skip 1)
      pure (.anchor name, place)
  else if c == '!' then
    let inFlow := s.inFlow
    s.keyLike fun place => do
      let ((handle, suffix), place) ← tag inFlow place
      pure (.tag handle suffix, place)
  else if c == '|' && !s.inFlow then s.blockScalar true
  else if c == '>' && !s.inFlow then s.blockScalar false
  else if c == '\'' then s.quotedScalar true
  else if c == '"' then s.quotedScalar false
  else if !isBlank c && startsPlain s.inFlow c after then s.plainScalar
  else .error .unexpectedCharacter

def run : Nat → Scanner → Except Error (Array Token)
  | 0, s => .ok s.tokens
  | fuel + 1, s => do
    let s := skipBlanks (s.place.rest.length + 1) s
    let s ← s.dropStale
    let s := s.endBlocks (some s.place.column)
    match s.place.peek 0 with
    | some c => run fuel (← s.next c)
    | none =>
      let s ← (s.endBlocks none).dropCandidate
      pure (s.push .streamEnd).tokens

end Scanner

/-- Whether a YAML text may hold `c`. -/
def isPrintable (c : Char) : Bool :=
  let n := c.toNat
  n == 9 || n == 10 || n == 13 || (0x20 ≤ n && n ≤ 0x7E) || n == 0x85
    || (0xA0 ≤ n && n ≤ 0xFFFD) || 0x10000 ≤ n

def tokenize (text : String) : Except Error (Array Token) :=
  let cs := text.toList
  if cs.all isPrintable then
    Scanner.run (cs.length + 1) ⟨⟨cs, 0, 0, 0⟩, #[], [], none, [], true⟩
  else .error .controlCharacter

end Stencil.Yaml
