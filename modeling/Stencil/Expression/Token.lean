import Stencil.Expression.Error
import Stencil.Json.Reader
import Stencil.Decimal.Reading

/-!
# Tokens of an expression

Names are made of Latin letters, digits and underscores. Numbers are whole, in one of four bases,
or decimals, with underscores between their digits. Texts stand in single or double quotes.
Texts are cut into tokens as by `minijinja` 2.21.0.
-/
namespace Stencil.Expression

inductive Token
  | name (text : String)
  | text (value : String)
  | int (value : Nat)
  | real (value : Float)
  | plus | minus | star | starStar | slash | slashSlash | percent | tilde | pipe
  | dot | comma | colon | assign
  | equal | unequal | less | lessOrEqual | greater | greaterOrEqual
  | openParen | closeParen | openBracket | closeBracket | openBrace | closeBrace
  | bang
  deriving Repr, BEq, Inhabited

namespace Token

def startsName (c : Char) : Bool := c.isAlpha || c == '_'

/-- Whether `c` may follow in a name. -/
def continuesName (c : Char) : Bool := c.isAlphanum || c == '_'

/-- Whether `c` is a blank between tokens. -/
def isBlank (c : Char) : Bool := c == ' ' || c == '\t' || c == '\n' || c == '\r' || c == '\x0c'

/-! ## Texts -/

/-- Cuts a text at its closing quote: a backslash takes the next character along. -/
def cutQuoted (quote : Char) : List Char → Option (List Char × List Char)
  | [] => none
  | '\\' :: c :: rest => (cutQuoted quote rest).map fun (s, rest) => ('\\' :: c :: s, rest)
  | c :: rest =>
    if c = quote then some ([], rest)
    else (cutQuoted quote rest).map fun (s, rest) => (c :: s, rest)

/-- The value of up to four hexadecimal digits; a plus sign may come first. -/
def hexUnit? (cs : List Char) : Option Nat :=
  let ds := match cs with
    | '+' :: rest => rest
    | rest => rest
  if cs.length < 4 ∨ ds.isEmpty then none
  else (ds.mapM Json.hexDigit?).map fun values => values.foldl (fun n d => n * 16 + d) 0

/-- The value of two hexadecimal digits. -/
def hexByte? : List Char → Option Nat
  | [a, b] => do pure ((← Json.hexDigit? a) * 16 + (← Json.hexDigit? b))
  | _ => none

def octalDigit? (c : Char) : Option Nat :=
  if '0' ≤ c ∧ c ≤ '7' then some (c.toNat - 48) else none

/-- Up to three octal digits at the start of `cs`, as the number of digits and their value. -/
def octal (cs : List Char) : Nat × Nat :=
  let ds := (cs.take 3).takeWhile fun c => (octalDigit? c).isSome
  (ds.length, ds.foldl (fun n d => n * 8 + (d.toNat - 48)) 0)

/-- Replaces the escapes of a text. `pending` is the first half of a surrogate pair, the second of
which must come next. An unknown escape stands for itself, backslash included. -/
def unescape (pending : Option Nat) : Nat → List Char → Option (List Char)
  | 0, _ => none
  | fuel + 1, cs =>
    let add (c : Char) (rest : List Char) : Option (List Char) :=
      if pending.isSome then none else (unescape none fuel rest).map (c :: ·)
    match cs with
    | [] => if pending.isSome then none else some []
    | ['\\'] => none
    | '\\' :: 'u' :: rest =>
      match hexUnit? (rest.take 4) with
      | none => none
      | some n =>
        let rest := rest.drop 4
        match pending with
        | none =>
          if 0xD800 ≤ n ∧ n < 0xE000 then unescape (some n) fuel rest
          else (unescape none fuel rest).map (Char.ofNat n :: ·)
        | some high =>
          if high < 0xDC00 ∧ 0xDC00 ≤ n ∧ n < 0xE000 then
            (unescape none fuel rest).map
              (Char.ofNat (0x10000 + (high - 0xD800) * 0x400 + (n - 0xDC00)) :: ·)
          else none
    | '\\' :: 'x' :: rest =>
      match hexByte? (rest.take 2) with
      | some n => add (Char.ofNat n) (rest.drop 2)
      | none => none
    | '\\' :: e :: rest =>
      match e with
      | 'b' => add '\x08' rest
      | 'f' => add '\x0c' rest
      | 'n' => add '\n' rest
      | 'r' => add '\r' rest
      | 't' => add '\t' rest
      | e =>
        if ['"', '\\', '/', '\''].contains e then add e rest
        else if (octalDigit? e).isSome then
          let (count, n) := octal (e :: rest)
          if n < 256 then add (Char.ofNat n) ((e :: rest).drop count) else none
        else if pending.isSome then none
        else (unescape none fuel rest).map ('\\' :: e :: ·)
    | c :: rest => add c rest

/-! ## Numbers -/

/-- Where in a number a character stands. -/
inductive NumberPart
  | whole | fraction | exponentMark | exponent | based
  deriving DecidableEq

/-- The part of a number that `c` leads to, if it belongs to the number. -/
def NumberPart.next (hex : Bool) (part : NumberPart) (c : Char) : Option NumberPart :=
  if c = '.' ∧ part = .whole then some .fraction
  else if (c = 'e' ∨ c = 'E') ∧ (part = .whole ∨ part = .fraction) then some .exponentMark
  else if (c = '+' ∨ c = '-') ∧ part = .exponentMark then some .exponent
  else if c.isDigit then some (if part = .exponentMark then .exponent else part)
  else if hex ∧ (Json.hexDigit? c).isSome ∧ part = .based then some part
  else if c = '_' then some part
  else none

/-- The characters of a number and the part in which it ends. -/
def numberRun (hex : Bool) (part : NumberPart) : List Char → List Char × NumberPart
  | [] => ([], part)
  | c :: rest =>
    match part.next hex c with
    | some next =>
      let (run, last) := numberRun hex next rest
      (c :: run, last)
    | none => ([], part)

def inBase? (base : Nat) (cs : List Char) : Option Nat := do
  let ds ← cs.mapM Json.hexDigit?
  if ds.isEmpty || ds.any (base ≤ ·) then none else some (ds.foldl (fun n d => n * base + d) 0)

/-- The base that a number names at its start, and what follows. -/
def baseOf : List Char → Nat × List Char
  | '0' :: m :: rest =>
    if m = 'b' ∨ m = 'B' then (2, rest)
    else if m = 'o' ∨ m = 'O' then (8, rest)
    else if m = 'x' ∨ m = 'X' then (16, rest)
    else (10, '0' :: m :: rest)
  | cs => (10, cs)

/-- Reads a number. Whole numbers must fit 128 bits. -/
def number (cs : List Char) : Except ParseError (Token × List Char) :=
  let (base, cs) := baseOf cs
  let (run, last) := numberRun (base = 16) (if base = 10 then .whole else .based) cs
  let rest := cs.drop run.length
  let digits := run.filter (· ≠ '_')
  if run.getLast? = some '_' then .error .badNumber
  else if last = .whole ∨ last = .based then
    match inBase? base digits with
    | some n => if n < twoTo 128 then .ok (.int n, rest) else .error .badNumber
    | none => .error .badNumber
  else match Decimal.parse? digits with
    | some x => .ok (.real x, rest)
    | none => .error .badNumber

/-! ## All tokens -/

def pair? : Char → Char → Option Token
  | '/', '/' => some .slashSlash
  | '*', '*' => some .starStar
  | '=', '=' => some .equal
  | '!', '=' => some .unequal
  | '>', '=' => some .greaterOrEqual
  | '<', '=' => some .lessOrEqual
  | _, _ => none

def single? : Char → Option Token
  | '+' => some .plus | '-' => some .minus | '*' => some .star | '/' => some .slash
  | '%' => some .percent | '~' => some .tilde | '|' => some .pipe | '.' => some .dot
  | ',' => some .comma | ':' => some .colon | '=' => some .assign
  | '<' => some .less | '>' => some .greater | '!' => some .bang
  | '(' => some .openParen | ')' => some .closeParen
  | '[' => some .openBracket | ']' => some .closeBracket
  | '\x7b' => some .openBrace | '\x7d' => some .closeBrace
  | _ => none

/-- Reads the token at the start of `c :: rest`, which is no blank. -/
def one (c : Char) (rest : List Char) : Except ParseError (Token × List Char) :=
  match rest.head?.bind (pair? c) with
  | some t => .ok (t, rest.tail)
  | none =>
    match single? c with
    | some t => .ok (t, rest)
    | none =>
      if c = '"' ∨ c = '\'' then
        match cutQuoted c rest with
        | none => .error .unclosedString
        | some (body, rest) =>
          match unescape none (body.length + 1) body with
          | some s => .ok (.text (String.ofList s), rest)
          | none => .error .badEscape
      else if c.isDigit then number (c :: rest)
      else if startsName c then
        let run := (c :: rest).takeWhile continuesName
        .ok (.name (String.ofList run), (c :: rest).drop run.length)
      else .error (.unexpectedCharacter c)

def readAll : Nat → List Char → Except ParseError (List Token)
  | 0, _ => .ok []
  | fuel + 1, cs =>
    match cs.dropWhile isBlank with
    | [] => .ok []
    | c :: rest => do
      let (t, rest) ← one c rest
      pure (t :: (← readAll fuel rest))

def ofText (cs : List Char) : Except ParseError (List Token) := readAll (cs.length + 1) cs

end Token
end Stencil.Expression
