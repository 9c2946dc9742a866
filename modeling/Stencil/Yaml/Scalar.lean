import Stencil.Yaml.Cursor

/-!
# The text of a scalar

Plain, quoted and block scalars, each with its way to fold lines: a single line end becomes a space,
and of several the first is dropped. Where they begin and end is as in `serde_yaml` 0.9.
-/
namespace Stencil.Yaml

/-- The blank stretch between two parts of a scalar: the blanks on one line, or the first line end
and those after it. -/
structure Gap where
  blanks : List Char
  folded : Bool
  first : List Char
  others : List Char

def Gap.none : Gap := ⟨[], false, [], []⟩

/-- What a gap contributes to the scalar. -/
def Gap.text (g : Gap) : List Char :=
  if g.folded then
    if g.first.head? = some '\n' then if g.others.isEmpty then [' '] else g.others
    else g.first ++ g.others
  else g.blanks

/-- Reads the blanks and line ends of a gap. With `indent`, a tab before that column of a new line
is an error. -/
def Gap.read (indent : Option Nat) : Nat → Gap → Cursor → Except Error (Gap × Cursor)
  | 0, g, s => .ok (g, s)
  | fuel + 1, g, s =>
    match s.peek 0 with
    | some c =>
      if isBlank c then
        if g.folded then
          if c = '\t' ∧ indent.any (s.column < ·) then .error .tabIndentation
          else Gap.read indent fuel g (s.skip 1)
        else Gap.read indent fuel { g with blanks := g.blanks ++ [c] } (s.skip 1)
      else if isBreak c then
        let (ending, next) := s.readBreak
        if g.folded then Gap.read indent fuel { g with others := g.others ++ ending } next
        else Gap.read indent fuel { g with blanks := [], folded := true, first := ending } next
      else .ok (g, s)
    | Option.none => .ok (g, s)

/-! ## Plain scalars -/

/-- The characters that end a plain scalar within brackets. -/
def isFlowMark (c : Char) : Bool := c == ',' || c == '[' || c == ']' || c == '{' || c == '}'

/-- Reads the part of a plain scalar up to the next blank or mark. -/
def plainWord (inFlow : Bool) : List Char → Except Error (List Char)
  | [] => .ok []
  | c :: rest =>
    if isBlank c || isBreak c then .ok []
    else if inFlow && c == ':' && rest.head?.any (fun d => isFlowMark d || d == '?') then
      .error .unexpectedCharacter
    else if (c == ':' && endsWord rest.head?) || (inFlow && isFlowMark c) then .ok []
    else do pure (c :: (← plainWord inFlow rest))

/-- Reads a plain scalar whose further lines must reach column `indent`. Gives its text, whether it
ended on a new line, and the place after it. -/
def plain (inFlow : Bool) (indent : Nat) :
    Nat → List Char → Gap → Cursor → Except Error (List Char × Bool × Cursor)
  | 0, text, g, s => .ok (text, g.folded, s)
  | fuel + 1, text, g, s =>
    if s.isDocumentMark || s.peek 0 == some '#' then .ok (text, g.folded, s)
    else do
      let word ← plainWord inFlow s.rest
      let after := s.skip word.length
      let (text, g) := if word.isEmpty then (text, g) else (text ++ g.text ++ word, Gap.none)
      if after.peek 0 |>.any fun c => isBlank c || isBreak c then
        let (g, after) ← Gap.read (some indent) (after.rest.length + 1) g after
        if !inFlow && after.column < indent then pure (text, g.folded, after)
        else plain inFlow indent fuel text g after
      else pure (text, g.folded, after)

/-! ## Quoted scalars -/

def shortEscape? : Char → Option Nat
  | '0' => some 0 | 'a' => some 7 | 'b' => some 8 | 't' => some 9 | '\t' => some 9
  | 'n' => some 10 | 'v' => some 11 | 'f' => some 12 | 'r' => some 13 | 'e' => some 27
  | ' ' => some 32 | '"' => some 34 | '/' => some 47 | '\\' => some 92
  | 'N' => some 0x85 | '_' => some 0xA0 | 'L' => some 0x2028 | 'P' => some 0x2029
  | _ => none

/-- How many hexadecimal digits an escape takes. -/
def escapeLength? : Char → Option Nat
  | 'x' => some 2 | 'u' => some 4 | 'U' => some 8 | _ => none

/-- The character that hexadecimal digits stand for. -/
def hexChar? (digits : List Char) : Option Char := do
  let values ← digits.mapM Json.hexDigit?
  let n := values.foldl (fun n d => n * 16 + d) 0
  if n < 0xD800 ∨ (0xE000 ≤ n ∧ n ≤ 0x10FFFF) then some (Char.ofNat n) else none

/-- Where reading the part of a quoted scalar ended. -/
inductive PartEnd
  | quote | blank | escapedBreak
  deriving DecidableEq

/-- Reads the part of a quoted scalar up to the next blank, line end or closing quote. Gives the
text and the number of characters taken. -/
def quotedPart (single : Bool) : Nat → List Char → Except Error (List Char × Nat × PartEnd)
  | 0, _ => .error .unclosedQuote
  | fuel + 1, cs =>
    let add (c : Char) (taken : Nat) (rest : List Char) :
        Except Error (List Char × Nat × PartEnd) := do
      let (text, n, e) ← quotedPart single fuel rest
      pure (c :: text, n + taken, e)
    match cs with
    | [] => .ok ([], 0, .blank)
    | c :: rest =>
      if isBlank c || isBreak c then .ok ([], 0, .blank)
      else if single then
        match c, rest with
        | '\'', '\'' :: rest => add '\'' 2 rest
        | '\'', _ => .ok ([], 0, .quote)
        | c, rest => add c 1 rest
      else
        match c, rest with
        | '"', _ => .ok ([], 0, .quote)
        | '\\', e :: rest =>
          if isBreak e then .ok ([], 1, .escapedBreak)
          else match shortEscape? e, escapeLength? e with
            | some n, _ => add (Char.ofNat n) 2 rest
            | none, some k =>
              match hexChar? (rest.take k) with
              | some d =>
                if rest.length < k then .error .badEscape else add d (2 + k) (rest.drop k)
              | none => .error .badEscape
            | none, none => .error .badEscape
        | '\\', [] => .error .badEscape
        | c, rest => add c 1 rest

def quoted (single : Bool) : Nat → List Char → Cursor → Except Error (List Char × Cursor)
  | 0, _, _ => .error .unclosedQuote
  | fuel + 1, text, s =>
    if s.isDocumentMark then .error .documentMark
    else if s.rest.isEmpty then .error .unclosedQuote
    else do
      let (part, taken, ending) ← quotedPart single (s.rest.length + 1) s.rest
      let s := s.skip taken
      match ending with
      | .quote => pure (text ++ part, s.skip 1)
      | .blank =>
        let (g, s) ← Gap.read Option.none (s.rest.length + 1) Gap.none s
        quoted single fuel (text ++ part ++ g.text) s
      | .escapedBreak =>
        let (g, s) ← Gap.read Option.none (s.rest.length + 1) ⟨[], true, [], []⟩ s.readBreak.2
        quoted single fuel (text ++ part ++ g.text) s

/-! ## Block scalars -/

/-- What becomes of the line ends at the end of a block scalar. -/
inductive Chomping
  | strip | clip | keep
  deriving DecidableEq

def blockHeader (s : Cursor) : Except Error (Chomping × Option Nat × Cursor) :=
  let sign (s : Cursor) : Option Chomping × Cursor :=
    match s.peek 0 with
    | some '+' => (some .keep, s.skip 1)
    | some '-' => (some .strip, s.skip 1)
    | _ => (none, s)
  let width (s : Cursor) : Except Error (Option Nat × Cursor) :=
    match s.peek 0 with
    | some c =>
      if c = '0' then .error .badBlockHeader
      else if c.isDigit then .ok (some (c.toNat - 48), s.skip 1)
      else .ok (none, s)
    | none => .ok (none, s)
  match sign s with
  | (some chomping, s) => do
    let (w, s) ← width s
    pure (chomping, w, s)
  | (none, s) => do
    let (w, s) ← width s
    let (chomping, s) := if w.isSome then sign s else (none, s)
    pure (chomping.getD .clip, w, s)

/-- Reads the line ends between lines of a block scalar and the indentation of the next line. An
unknown indentation, zero, becomes that of the deepest line seen, but at least `least`. -/
def blockBreaks (least : Nat) :
    Nat → Nat → Nat → List Char → Cursor → Except Error (List Char × Nat × Cursor)
  | 0, indent, _, breaks, s => .ok (breaks, indent, s)
  | fuel + 1, indent, deepest, breaks, s =>
    let spaces := (s.rest.takeWhile (· == ' ')).length
    let s := s.skip (if indent = 0 then spaces else min spaces (indent - s.column))
    let deepest := max deepest s.column
    if s.peek 0 = some '\t' ∧ (indent = 0 ∨ s.column < indent) then .error .tabIndentation
    else if s.peek 0 |>.any isBreak then
      let (ending, s) := s.readBreak
      blockBreaks least fuel indent deepest (breaks ++ ending) s
    else .ok (breaks, if indent = 0 then max deepest least else indent, s)

/-- Reads the lines of a block scalar that start at column `indent`. `first` and `others` are the
line ends before the next line, the first one apart. -/
def blockLines (literal : Bool) (indent : Nat) :
    Nat → List Char → Bool → List Char → List Char → Cursor →
      Except Error (List Char × List Char × List Char × Cursor)
  | 0, text, _, first, others, s => .ok (text, first, others, s)
  | fuel + 1, text, blankBefore, first, others, s =>
    if s.column ≠ indent ∨ s.rest.isEmpty then .ok (text, first, others, s)
    else do
      let blankHere := s.rest.head?.any isBlank
      let text :=
        if !literal && first.head? = some '\n' && !blankBefore && !blankHere then
          if others.isEmpty then text ++ [' '] else text
        else text ++ first
      let (line, s) := s.takeWhile (!isBreak ·)
      let (ending, s) := s.readBreak
      let (breaks, _, s) ← blockBreaks indent (s.rest.length + 1) indent 0 [] s
      blockLines literal indent fuel (text ++ others ++ line) blankHere ending breaks s

/-- Reads a block scalar after its indicator, inside of a block at column `outer`, or of none. -/
def block (literal : Bool) (outer : Option Nat) (s : Cursor) :
    Except Error (List Char × Cursor) := do
  let (chomping, width, s) ← blockHeader s
  let s ← s.finishLine .badBlockHeader
  let fixed := width.map fun w => outer.getD 0 + w
  let least := match outer with
    | some column => column + 1
    | none => 1
  let (breaks, indent, s) ← blockBreaks least (s.rest.length + 1) (fixed.getD 0) 0 [] s
  let (text, first, others, s) ←
    blockLines literal indent (s.rest.length + 1) [] false [] breaks s
  pure (match chomping with
    | .strip => text
    | .clip => text ++ first
    | .keep => text ++ first ++ others, s)

end Stencil.Yaml
