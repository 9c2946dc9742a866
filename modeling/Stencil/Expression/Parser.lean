import Stencil.Expression.Syntax
import Stencil.Expression.Token

/-!
# Reading expressions

The operators from the loosest to the tightest: `if`, `or`, `and`, `not`, the relations, `+ -`,
`~`, `* / // %`, `**`, the sign, and at last subscripts, filters and tests. A sign binds tighter
than a power, and filters apply to a sign and its operand together.
Each reader gives the part that it read and the tokens after it. The grammar is that of `minijinja`
2.21.0.
-/
namespace Stencil.Expression.Parser

/-- How many expressions and bracketed parts may be open at a time. -/
def maxDepth : Nat := 150

def expect (t : Token) : List Token → Except ParseError (List Token)
  | t' :: rest => if t' == t then .ok rest else .error .unexpectedToken
  | [] => .error .unexpectedEnd

def expectName : List Token → Except ParseError (String × List Token)
  | .name s :: rest => .ok (s, rest)
  | _ :: _ => .error .unexpectedToken
  | [] => .error .unexpectedEnd

/-- A name of a filter or a test: names with dots between them. -/
def dottedName : List Token → Except ParseError (String × List Token)
  | .name s :: .dot :: .name t :: rest => do
    let (more, rest) ← dottedName (.name t :: rest)
    pure (s ++ "." ++ more, rest)
  | .name s :: rest => .ok (s, rest)
  | _ :: _ => .error .unexpectedToken
  | [] => .error .unexpectedEnd

/-- A level of operators that stand between two operands and group to the left. -/
inductive Level
  | disjunction | conjunction | sum | concatenation | product | power
  deriving DecidableEq

/-- What an operator of a level makes of its operands. -/
def Level.operator? : Level → Token → Option (Expr → Expr → Expr)
  | .disjunction, .name "or" => some .or
  | .conjunction, .name "and" => some .and
  | .sum, .plus => some (.binary .add)
  | .sum, .minus => some (.binary .subtract)
  | .concatenation, .tilde => some (.binary .concatenate)
  | .product, .star => some (.binary .multiply)
  | .product, .slash => some (.binary .divide)
  | .product, .slashSlash => some (.binary .divideWhole)
  | .product, .percent => some (.binary .modulo)
  | .power, .starStar => some (.binary .power)
  | _, _ => none

/-- A relation at the front of the tokens; a lone `not` is an error. -/
def relation? : List Token → Except ParseError (Option (Relation × List Token))
  | .equal :: rest => .ok (some (.equal, rest))
  | .unequal :: rest => .ok (some (.unequal, rest))
  | .less :: rest => .ok (some (.less, rest))
  | .lessOrEqual :: rest => .ok (some (.lessOrEqual, rest))
  | .greater :: rest => .ok (some (.greater, rest))
  | .greaterOrEqual :: rest => .ok (some (.greaterOrEqual, rest))
  | .name "in" :: rest => .ok (some (.memberOf, rest))
  | .name "not" :: .name "in" :: rest => .ok (some (.notMemberOf, rest))
  | .name "not" :: _ => .error .unexpectedToken
  | _ => .ok none

/-- Whether a token starts the argument of a test that stands without brackets. -/
def startsTestArgument : Token → Bool
  | .name s => s ∉ ["and", "or", "else", "is"]
  | .text _ | .int _ | .real _ | .plus | .minus | .openBracket | .openBrace => true
  | _ => false

/-- Texts that follow each other are one text. -/
def adjacentTexts (s : String) : List Token → String × List Token
  | .text t :: rest => adjacentTexts (s ++ t) rest
  | rest => (s, rest)

mutual

/-- An expression. `depth` more expressions and bracketed parts may be opened. -/
def expr : Nat → Nat → List Token → Except ParseError (Expr × List Token)
  | 0, _, _ => .error .tooDeep
  | _, 0, _ => .error .tooDeep
  | fuel + 1, depth + 1, ts => conditional fuel depth ts

/-- A value, perhaps with the condition under which it is taken. -/
def conditional : Nat → Nat → List Token → Except ParseError (Expr × List Token)
  | 0, _, _ => .error .tooDeep
  | fuel + 1, depth, ts => do
    let (value, ts) ← leveled fuel .disjunction depth ts
    choices fuel depth value ts

/-- The conditions behind a value. -/
def choices : Nat → Nat → Expr → List Token → Except ParseError (Expr × List Token)
  | 0, _, _, _ => .error .tooDeep
  | fuel + 1, depth, value, ts =>
    match ts with
    | .name "if" :: rest => do
      let (test, rest) ← leveled fuel .disjunction depth rest
      match rest with
      | .name "else" :: rest =>
        let (otherwise, rest) ← conditional fuel depth rest
        choices fuel depth (.choose value test (some otherwise)) rest
      | rest => choices fuel depth (.choose value test none) rest
    | ts => .ok (value, ts)

/-- Operands of a level with its operators between them. -/
def leveled : Nat → Level → Nat → List Token → Except ParseError (Expr × List Token)
  | 0, _, _, _ => .error .tooDeep
  | fuel + 1, level, depth, ts => do
    let (left, ts) ← operand fuel level depth ts
    operators fuel level depth left ts

/-- The operators and operands behind the first operand of a level. -/
def operators : Nat → Level → Nat → Expr → List Token → Except ParseError (Expr × List Token)
  | 0, _, _, _, _ => .error .tooDeep
  | fuel + 1, level, depth, left, ts =>
    match ts with
    | t :: rest =>
      match level.operator? t with
      | some make => do
        let (right, rest) ← operand fuel level depth rest
        operators fuel level depth (make left right) rest
      | none => .ok (left, ts)
    | [] => .ok (left, [])

def operand : Nat → Level → Nat → List Token → Except ParseError (Expr × List Token)
  | 0, _, _, _ => .error .tooDeep
  | fuel + 1, level, depth, ts =>
    match level with
    | .disjunction => leveled fuel .conjunction depth ts
    | .conjunction => negation fuel depth ts
    | .sum => leveled fuel .concatenation depth ts
    | .concatenation => leveled fuel .product depth ts
    | .product => leveled fuel .power depth ts
    | .power => signedOperand fuel depth ts

def negation : Nat → Nat → List Token → Except ParseError (Expr × List Token)
  | 0, _, _ => .error .tooDeep
  | fuel + 1, depth, ts =>
    match ts with
    | .name "not" :: rest => do
      let (e, rest) ← negation fuel depth rest
      pure (.not e, rest)
    | ts => do
      let (first, ts) ← leveled fuel .sum depth ts
      let (chain, ts) ← relations fuel depth ts
      pure (if chain.isEmpty then first else .compare first chain, ts)

/-- The relations behind the first operand of a comparison. -/
def relations : Nat → Nat → List Token → Except ParseError (List (Relation × Expr) × List Token)
  | 0, _, _ => .error .tooDeep
  | fuel + 1, depth, ts => do
    match ← relation? ts with
    | none => pure ([], ts)
    | some (r, rest) =>
      let (e, rest) ← leveled fuel .sum depth rest
      let (chain, rest) ← relations fuel depth rest
      pure ((r, e) :: chain, rest)

/-- An operand with sign, subscripts, filters and tests. -/
def signedOperand : Nat → Nat → List Token → Except ParseError (Expr × List Token)
  | 0, _, _ => .error .tooDeep
  | fuel + 1, depth, ts => do
    let (e, ts) ← signed fuel depth ts
    let (e, ts) ← subscripts fuel depth e ts
    filters fuel depth e ts

/-- An atom, perhaps with minus signs. -/
def signed : Nat → Nat → List Token → Except ParseError (Expr × List Token)
  | 0, _, _ => .error .tooDeep
  | fuel + 1, depth, ts =>
    match ts with
    | .minus :: rest => do
      let (e, rest) ← signed fuel depth rest
      pure (.negate e, rest)
    | ts => atom fuel depth ts

/-- Fields, items, slices and calls behind an operand. A point and a number name an item. -/
def subscripts : Nat → Nat → Expr → List Token → Except ParseError (Expr × List Token)
  | 0, _, _, _ => .error .tooDeep
  | fuel + 1, depth, e, ts =>
    match ts with
    | .dot :: .int n :: rest => subscripts fuel depth (.item e (.literal (.int n))) rest
    | .dot :: rest => do
      let (name, rest) ← expectName rest
      subscripts fuel depth (.field e name) rest
    | .openBracket :: rest => do
      let (e, rest) ← subscript fuel depth e rest
      subscripts fuel depth e rest
    | .openParen :: rest => do
      let (arguments, rest) ← arguments fuel depth true false rest
      subscripts fuel depth (.call e arguments) rest
    | ts => .ok (e, ts)

/-- An item or a slice after its opening bracket. -/
def subscript : Nat → Nat → Expr → List Token → Except ParseError (Expr × List Token)
  | 0, _, _, _ => .error .tooDeep
  | fuel + 1, depth, e, ts => do
    let (start, ts) ← match ts with
      | .colon :: _ => pure (none, ts)
      | ts => do
        let (i, ts) ← expr fuel depth ts
        pure (some i, ts)
    match ts, start with
    | .colon :: rest, start =>
      let (stop, rest) ← match rest with
        | .closeBracket :: _ | .colon :: _ => pure (none, rest)
        | rest => do
          let (i, rest) ← expr fuel depth rest
          pure (some i, rest)
      let (step, rest) ← match rest with
        | .colon :: .closeBracket :: rest => pure (none, .closeBracket :: rest)
        | .colon :: rest => do
          let (i, rest) ← expr fuel depth rest
          pure (some i, rest)
        | rest => pure (none, rest)
      pure (.slice e start stop step, ← expect .closeBracket rest)
    | ts, some i => pure (.item e i, ← expect .closeBracket ts)
    | _, none => .error .unexpectedToken

/-- Filters and tests behind an operand. -/
def filters : Nat → Nat → Expr → List Token → Except ParseError (Expr × List Token)
  | 0, _, _, _ => .error .tooDeep
  | fuel + 1, depth, e, ts =>
    match ts with
    | .pipe :: rest => do
      let (name, rest) ← dottedName rest
      let (arguments, rest) ← match rest with
        | .openParen :: rest => arguments fuel depth true false rest
        | rest => pure ([], rest)
      filters fuel depth (.filter name e arguments) rest
    | .name "is" :: rest => do
      let (negated, rest) := match rest with
        | .name "not" :: rest => (true, rest)
        | rest => (false, rest)
      let (name, rest) ← dottedName rest
      let (arguments, rest) ← match rest with
        | .openParen :: rest => arguments fuel depth true false rest
        | t :: rest =>
          if startsTestArgument t then do
            let (a, rest) ← signed fuel depth (t :: rest)
            let (a, rest) ← subscripts fuel depth a rest
            pure ([(.positional, a)], rest)
          else pure ([], t :: rest)
        | [] => pure ([], [])
      let e := .test name e arguments
      filters fuel depth (if negated then .not e else e) rest
    | ts => .ok (e, ts)

/-- Arguments after their opening bracket, and the closing one. `first` holds before the first
argument, `named` after one that is passed by name. -/
def arguments : Nat → Nat → Bool → Bool → List Token →
    Except ParseError (List (Passing × Expr) × List Token)
  | 0, _, _, _, _ => .error .tooDeep
  | fuel + 1, depth, first, named, ts =>
    match first, ts with
    | _, .closeParen :: rest => .ok ([], rest)
    | false, .comma :: .closeParen :: rest => .ok ([], rest)
    | false, .comma :: rest => argument fuel depth named rest
    | true, ts => argument fuel depth named ts
    | false, [] => .error .unexpectedEnd
    | false, _ => .error .unexpectedToken

def argument : Nat → Nat → Bool → List Token →
    Except ParseError (List (Passing × Expr) × List Token)
  | 0, _, _, _ => .error .tooDeep
  | fuel + 1, depth, named, ts => do
    match ts with
    | .starStar :: rest =>
      let (e, rest) ← expr fuel depth rest
      let (more, rest) ← arguments fuel depth false true rest
      pure ((.spreadNamed, e) :: more, rest)
    | .star :: rest =>
      let (e, rest) ← expr fuel depth rest
      let (more, rest) ← arguments fuel depth false named rest
      pure ((.spread, e) :: more, rest)
    | ts =>
      let (e, rest) ← expr fuel depth ts
      match e, rest with
      | .name n, .assign :: rest =>
        let (e, rest) ← leveled fuel .disjunction depth rest
        let (more, rest) ← arguments fuel depth false true rest
        pure ((.named n, e) :: more, rest)
      | e, rest =>
        if named then .error .argumentOrder
        else
          let (more, rest) ← arguments fuel depth false named rest
          pure ((.positional, e) :: more, rest)

/-- An atom: a literal, a name, or something in brackets. -/
def atom : Nat → Nat → List Token → Except ParseError (Expr × List Token)
  | 0, _, _ => .error .tooDeep
  | _, 0, _ => .error .tooDeep
  | fuel + 1, depth + 1, ts =>
    match ts with
    | [] => .error .unexpectedEnd
    | .name s :: rest =>
      let e : Expr :=
        if s = "true" ∨ s = "True" then .literal (.bool true)
        else if s = "false" ∨ s = "False" then .literal (.bool false)
        else if s = "none" ∨ s = "None" then .literal .none
        else .name s
      .ok (e, rest)
    | .text s :: rest =>
      let (s, rest) := adjacentTexts s rest
      .ok (.literal (.text s), rest)
    | .int n :: rest => .ok (.literal (.int n), rest)
    | .real x :: rest => .ok (.literal (.real x), rest)
    | .openParen :: .closeParen :: rest => .ok (.list [], rest)
    | .openParen :: rest => do
      let (e, rest) ← expr fuel depth rest
      match rest with
      | .comma :: rest =>
        let (more, rest) ← listItems fuel depth .closeParen rest
        pure (.list (e :: more), rest)
      | rest => pure (e, ← expect .closeParen rest)
    | .openBracket :: rest => do
      let (items, rest) ← listItems fuel depth .closeBracket rest
      pure (.list items, rest)
    | .openBrace :: rest => do
      let (entries, rest) ← mapEntries fuel depth rest
      pure (.map entries, rest)
    | _ => .error .unexpectedToken

/-- The items of a list, each followed by a comma or the closing bracket. -/
def listItems : Nat → Nat → Token → List Token → Except ParseError (List Expr × List Token)
  | 0, _, _, _ => .error .tooDeep
  | fuel + 1, depth, close, ts =>
    match ts with
    | [] => .error .unexpectedEnd
    | t :: rest =>
      if t == close then .ok ([], rest)
      else do
        let (e, rest) ← expr fuel depth ts
        match rest with
        | .comma :: rest =>
          let (more, rest) ← listItems fuel depth close rest
          pure (e :: more, rest)
        | rest => pure ([e], ← expect close rest)

/-- The entries of a map, each followed by a comma or the closing brace. -/
def mapEntries : Nat → Nat → List Token → Except ParseError (List (Expr × Expr) × List Token)
  | 0, _, _ => .error .tooDeep
  | fuel + 1, depth, ts =>
    match ts with
    | [] => .error .unexpectedEnd
    | .closeBrace :: rest => .ok ([], rest)
    | ts => do
      let (k, rest) ← expr fuel depth ts
      let (v, rest) ← expr fuel depth (← expect .colon rest)
      match rest with
      | .comma :: rest =>
        let (more, rest) ← mapEntries fuel depth rest
        pure ((k, v) :: more, rest)
      | rest => pure ([(k, v)], ← expect .closeBrace rest)

end

/-- Enough steps for so many tokens: between two tokens at most twenty readers are entered. -/
def steps (ts : List Token) : Nat := 20 * (ts.length + 2)

end Parser

/-- Reads a text that holds one expression. -/
def parse (cs : List Char) : Except ParseError Expr := do
  let ts ← Token.ofText cs
  let (e, rest) ← Parser.expr (Parser.steps ts) Parser.maxDepth ts
  if rest.isEmpty then pure e else .error .unexpectedToken

end Stencil.Expression
