import Stencil.Glob.Pattern

/-!
# Matching paths with patterns

A pattern matches a path as a whole. The matcher follows all ways through the pattern at once: it
keeps the parts of the path that are still to be matched, each a rest of the path, the longest one
first. Which paths match is as in `globset` 0.4, which looks at the file name first (`demand`).
-/
namespace Stencil.Glob

def bytes (s : String) : List UInt8 := s.toList.flatMap String.utf8EncodeChar

/-- Rests of one text, the longest first. -/
abbrev Rests := List (List UInt8)

def slash : UInt8 := 47

/-- Two lists of rests as one, each rest once. -/
def Rests.union (xs ys : Rests) : Rests :=
  (xs ++ ys.filter fun y => !xs.any fun x => x.length == y.length)

/-- The rests after one byte that satisfies `p`. -/
def Rests.step (p : UInt8 → Bool) (xs : Rests) : Rests :=
  xs.filterMap fun
    | b :: rest => if p b then some rest else none
    | [] => none

/-- All rests of a text, itself included. -/
def restsOf : List UInt8 → Rests
  | [] => [[]]
  | b :: rest => (b :: rest) :: restsOf rest

/-- The rests after any number of bytes. -/
def Rests.skip (xs : Rests) : Rests :=
  match xs.foldl (fun (longest : Option (List UInt8)) x =>
      match longest with
      | some y => if y.length < x.length then some x else some y
      | none => some x) none with
  | some x => restsOf x
  | none => []

/-- Whether a byte lies in a range of characters: in the bytes of the first one, in those of the
last one, or between the two bytes at which they meet. -/
def inRange (b : UInt8) (range : Char × Char) : Bool :=
  let first := String.utf8EncodeChar range.1
  let last := String.utf8EncodeChar range.2
  if range.1 = range.2 then first.contains b
  else
    first.dropLast.contains b || last.tail.contains b
      || match first.getLast?, last.head? with
        | some low, some high => decide (low ≤ b ∧ b ≤ high)
        | _, _ => false

mutual

/-- The rests after a token. -/
def Token.advance : Token → Rests → Rests
  | .literal c, xs => (String.utf8EncodeChar c).foldl (fun xs b => xs.step (· == b)) xs
  | .any, xs => xs.step fun _ => true
  | .zeroOrMore, xs => xs.skip
  | .leadingDirectories, xs => xs.union (xs.skip.step (· == slash))
  | .everythingBelow, xs => (xs.step (· == slash)).skip
  | .innerDirectories, xs =>
    let below := xs.step (· == slash)
    below.union (below.skip.step (· == slash))
  | .oneOf negated ranges, xs => xs.step fun b => ranges.any (inRange b) != negated
  | .alternates branches, xs =>
    if allEmpty branches then xs else advanceAny branches xs

/-- The rests after a pattern. -/
def advanceAll : List Token → Rests → Rests
  | [], xs => xs
  | t :: ts, xs => advanceAll ts (t.advance xs)

/-- The rests after one of several patterns that is not empty. -/
def advanceAny : List (List Token) → Rests → Rests
  | [], _ => []
  | branch :: branches, xs =>
    if isVoid branch then advanceAny branches xs
    else (advanceAll branch xs).union (advanceAny branches xs)

/-- Whether a pattern holds nothing to match. -/
def isVoid : List Token → Bool
  | [] => true
  | .alternates branches :: ts => allEmpty branches && isVoid ts
  | _ :: _ => false

/-- Whether all of several patterns hold nothing to match. -/
def allEmpty : List (List Token) → Bool
  | [] => true
  | branch :: branches => isVoid branch && allEmpty branches

end

def literalText : List Token → Option (List Char)
  | [] => some []
  | .literal c :: ts => (literalText ts).map (c :: ·)
  | _ :: _ => none

/-- The file name of a path: what follows the last slash. A path that ends in `..` has none. -/
def fileName (path : List UInt8) : Option (List UInt8) :=
  let name := (path.reverse.takeWhile (· != slash)).reverse
  if name.isEmpty || name == [46, 46] then none else some name

/-- The last dot of a file name and what follows it. -/
def extension (path : List UInt8) : Option (List UInt8) := do
  let name ← fileName path
  if name.contains 46 then
    some (46 :: (name.reverse.takeWhile (· != 46)).reverse)
  else none

/-- What a pattern asks of the path's file name before anything else. -/
inductive Demand
  /-- This file name, and nothing else. -/
  | name (text : List Char)
  /-- This extension, and nothing else. -/
  | extension (text : List Char)
  /-- This extension, and a match of the whole. -/
  | extensionAndMatch (text : List Char)
  | nothing

namespace Pattern

/-- The file name that a pattern of the form `**/name` asks for. -/
def wantedName : Pattern → Option (List Char)
  | .leadingDirectories :: ts =>
    match literalText ts with
    | some text => if text.isEmpty || text.contains '/' then none else some text
    | none => none
  | _ => none

/-- The extension that a pattern of the form `*.x` or `**/*.x` asks for. -/
def wantedExtension (p : Pattern) : Option (List Char) :=
  match (match p with
    | .leadingDirectories :: ts => ts
    | ts => ts) with
  | .zeroOrMore :: .literal '.' :: ts =>
    match literalText ts with
    | some text => if text.contains '.' || text.contains '/' then none else some ('.' :: text)
    | none => none
  | _ => none

/-- Whether plain characters make up the pattern, but for one wildcard at an end. -/
def isPlain (p : Pattern) : Bool :=
  let front := match p.reverse with
    | .zeroOrMore :: ts => (literalText ts.reverse).any (!·.isEmpty)
    | .everythingBelow :: ts => (literalText ts.reverse).isSome
    | _ => (literalText p).any (!·.isEmpty)
  let rooted := match p with
    | .leadingDirectories :: .literal _ :: _ => true
    | _ => false
  let tail := match p with
    | .leadingDirectories :: .zeroOrMore :: ts => ts
    | .leadingDirectories :: ts => ts
    | .zeroOrMore :: ts => ts
    | ts => ts
  let back := match literalText tail with
    | some text =>
      let text := if rooted then '/' :: text else text
      !(text.isEmpty || text == ['/'])
    | none => false
  front || back

/-- The extension that the plain characters at the end of a pattern fix. -/
def trailingExtension (p : Pattern) : Option (List Char) :=
  let tail := p.reverse.takeWhile fun
    | .literal c => c != '/' && c != '.'
    | _ => false
  match p.reverse.drop tail.length with
  | .literal '.' :: _ => (literalText tail.reverse).map ('.' :: ·)
  | _ => none

/-- What the pattern asks of the file name. -/
def demand (p : Pattern) : Demand :=
  match p.wantedName with
  | some text => .name text
  | none =>
    if (literalText p).any (!·.isEmpty) then .nothing
    else match p.wantedExtension with
      | some text => .extension text
      | none =>
        if p.isPlain then .nothing
        else match p.trailingExtension with
          | some text => .extensionAndMatch text
          | none => .nothing

/-- Whether the pattern matches the path from its first byte to its last. -/
def matchesWhole (p : Pattern) (path : List UInt8) : Bool :=
  match p with
  | [.leadingDirectories] => true
  | _ => (advanceAll p [path]).any List.isEmpty

/-- Whether the pattern matches the path. -/
def «matches» (p : Pattern) (path : String) : Bool :=
  let path := bytes path
  match p.demand with
  | .name text => fileName path == some (text.flatMap String.utf8EncodeChar)
  | .extension text => extension path == some (text.flatMap String.utf8EncodeChar)
  | .extensionAndMatch text =>
    extension path == some (text.flatMap String.utf8EncodeChar) && p.matchesWhole path
  | .nothing => p.matchesWhole path

end Pattern

/-- Patterns of which one must match. -/
abbrev PatternSet := List Pattern

def PatternSet.covers (patterns : PatternSet) (path : String) : Bool :=
  patterns.any fun p => p.matches path

end Stencil.Glob
