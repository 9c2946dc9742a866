import Stencil.Json.Number

/-!
# Reading JSON

Values may be nested 127 deep. Within objects the last member with a key counts; `readMembers`
gives the members of an outermost object as they are written. Texts are read as by `serde_json` 1.0.
-/
namespace Stencil.Json

/-- The text after blanks, tabs and line ends. -/
def skipBlanks (cs : List Char) : List Char :=
  cs.dropWhile fun c => c = ' ' ∨ c = '\n' ∨ c = '\t' ∨ c = '\r'

def hexDigit? (c : Char) : Option Nat :=
  if '0' ≤ c ∧ c ≤ '9' then some (c.toNat - 48)
  else if 'a' ≤ c ∧ c ≤ 'f' then some (c.toNat - 87)
  else if 'A' ≤ c ∧ c ≤ 'F' then some (c.toNat - 55)
  else none

def hex4? (a b c d : Char) : Option Nat := do
  pure ((← hexDigit? a) * 4096 + (← hexDigit? b) * 256 + (← hexDigit? c) * 16 + (← hexDigit? d))

def shortEscape? : Char → Option Char
  | '"' => some '"'
  | '\\' => some '\\'
  | '/' => some '/'
  | 'b' => some '\x08'
  | 'f' => some '\x0c'
  | 'n' => some '\n'
  | 'r' => some '\r'
  | 't' => some '\t'
  | _ => none

def stringBody : List Char → Except ReadError (List Char × List Char)
  | [] => .error .unexpectedEnd
  | '"' :: rest => .ok ([], rest)
  | '\\' :: 'u' :: a :: b :: c :: d :: rest =>
    match hex4? a b c d with
    | none => .error .badEscape
    | some n =>
      if 0xD800 ≤ n ∧ n < 0xDC00 then
        match rest with
        | '\\' :: 'u' :: e :: f :: g :: h :: rest =>
          match hex4? e f g h with
          | none => .error .badEscape
          | some low =>
            if 0xDC00 ≤ low ∧ low < 0xE000 then do
              let (cs, rest) ← stringBody rest
              pure (Char.ofNat (0x10000 + (n - 0xD800) * 0x400 + (low - 0xDC00)) :: cs, rest)
            else .error .loneSurrogate
        | _ => .error .loneSurrogate
      else if 0xDC00 ≤ n ∧ n < 0xE000 then .error .loneSurrogate
      else do
        let (cs, rest) ← stringBody rest
        pure (Char.ofNat n :: cs, rest)
  | '\\' :: e :: rest =>
    match shortEscape? e with
    | none => .error .badEscape
    | some c => do
      let (cs, rest) ← stringBody rest
      pure (c :: cs, rest)
  | c :: rest =>
    if c.toNat < 32 then .error .controlCharacter
    else if c = '\\' then .error .unexpectedEnd
    else do
      let (cs, rest) ← stringBody rest
      pure (c :: cs, rest)

/-- What follows the letters of `word`. -/
def keyword : List Char → List Char → Except ReadError (List Char)
  | [], cs => .ok cs
  | _ :: _, [] => .error .unexpectedEnd
  | w :: word, c :: cs => if w = c then keyword word cs else .error (.unexpected c)

mutual

def valueFrom : Nat → Nat → List Char → Except ReadError (Json × List Char)
  | 0, _, _ => .error .unexpectedEnd
  | fuel + 1, depth, cs =>
    match skipBlanks cs with
    | [] => .error .unexpectedEnd
    | 'n' :: rest => do pure (.null, ← keyword ['u', 'l', 'l'] rest)
    | 't' :: rest => do pure (.bool true, ← keyword ['r', 'u', 'e'] rest)
    | 'f' :: rest => do pure (.bool false, ← keyword ['a', 'l', 's', 'e'] rest)
    | '"' :: rest => do
      let (s, rest) ← stringBody rest
      pure (.string (String.ofList s), rest)
    | '-' :: rest => do
      let (n, rest) ← unsignedNumber true rest
      pure (.number n, rest)
    | '[' :: rest =>
      if depth = 0 then .error .tooDeep
      else match skipBlanks rest with
        | ']' :: rest => .ok (.array [], rest)
        | rest => do
          let (items, rest) ← itemsFrom fuel (depth - 1) rest
          pure (.array items, rest)
    | '\x7b' :: rest =>
      if depth = 0 then .error .tooDeep
      else do
        let (members, rest) ← objectFrom fuel (depth - 1) rest
        pure (ofMembers members, rest)
    | c :: rest =>
      if c.isDigit then do
        let (n, rest) ← unsignedNumber false (c :: rest)
        pure (.number n, rest)
      else .error (.unexpected c)

/-- Reads the items of an array, of which there is at least one, and the closing bracket. -/
def itemsFrom : Nat → Nat → List Char → Except ReadError (List Json × List Char)
  | 0, _, _ => .error .unexpectedEnd
  | fuel + 1, depth, cs => do
    let (item, rest) ← valueFrom fuel depth cs
    match skipBlanks rest with
    | ']' :: rest => pure ([item], rest)
    | ',' :: rest =>
      let (more, rest) ← itemsFrom fuel depth rest
      pure (item :: more, rest)
    | c :: _ => .error (.unexpected c)
    | [] => .error .unexpectedEnd

/-- Reads the members of an object after its opening brace, and the closing brace. -/
def objectFrom : Nat → Nat → List Char → Except ReadError (List (String × Json) × List Char)
  | 0, _, _ => .error .unexpectedEnd
  | fuel + 1, depth, cs =>
    match skipBlanks cs with
    | '\x7d' :: rest => .ok ([], rest)
    | rest => membersFrom fuel depth rest

/-- Reads members, of which there is at least one, and the closing brace. -/
def membersFrom : Nat → Nat → List Char → Except ReadError (List (String × Json) × List Char)
  | 0, _, _ => .error .unexpectedEnd
  | fuel + 1, depth, cs =>
    match skipBlanks cs with
    | '"' :: rest => do
      let (key, rest) ← stringBody rest
      match skipBlanks rest with
      | ':' :: rest =>
        let (item, rest) ← valueFrom fuel depth rest
        match skipBlanks rest with
        | '\x7d' :: rest => pure ([(String.ofList key, item)], rest)
        | ',' :: rest =>
          let (more, rest) ← membersFrom fuel depth rest
          pure ((String.ofList key, item) :: more, rest)
        | c :: _ => .error (.unexpected c)
        | [] => .error .unexpectedEnd
      | c :: _ => .error (.unexpected c)
      | [] => .error .unexpectedEnd
    | c :: _ => .error (.unexpected c)
    | [] => .error .unexpectedEnd

end

/-- How many arrays and objects may be open at a time. -/
def maxDepth : Nat := 127

/-- Enough steps to read a text: each takes a character or goes into one value. -/
def steps (cs : List Char) : Nat := 4 * cs.length + 4

/-- Reads a text that holds one value. -/
def read (text : String) : Except ReadError Json := do
  let cs := text.toList
  let (v, rest) ← valueFrom (steps cs) maxDepth cs
  if (skipBlanks rest).isEmpty then pure v else .error .trailingText

/-- Reads a text that holds one object, the members as they are written. -/
def readMembers (text : String) : Except ReadError (List (String × Json)) := do
  let cs := text.toList
  match skipBlanks cs with
  | '\x7b' :: rest =>
    let (members, rest) ← objectFrom (steps cs) (maxDepth - 1) rest
    if (skipBlanks rest).isEmpty then pure members else .error .trailingText
  | _ => .error .notAnObject

end Stencil.Json
