import Stencil.Glob.Error

/-!
# Glob patterns

A pattern is a list of tokens. `*` and `?` match slashes too; `**` as a whole component stands for
any number of directories; `[a-z]` is one byte of a class and `{a,b}` one of several patterns.
`Pattern.parse` reads a pattern from its text, by the rules that `globset` 0.4 has by default.
-/
namespace Stencil.Glob

inductive Token
  /-- This character. -/
  | literal (c : Char)
  /-- Any one byte. -/
  | any
  /-- Any bytes, none included. -/
  | zeroOrMore
  /-- Leading directories, or none. -/
  | leadingDirectories
  /-- A slash and anything below it. -/
  | everythingBelow
  /-- A slash, or a slash, directories and a slash. -/
  | innerDirectories
  /-- One byte that lies, or does not lie, in one of these ranges of characters. -/
  | oneOf (negated : Bool) (ranges : List (Char × Char))
  /-- One of these patterns; empty ones do not count. -/
  | alternates (branches : List (List Token))
  deriving Repr

abbrev Pattern := List Token

namespace Pattern

/-- A pattern while it is read: the tokens of the branch at hand in reverse, and per open brace the
finished branches of its group in reverse with the interrupted branch outside. -/
structure Draft where
  branch : List Token
  groups : List (List (List Token) × List Token)

def Draft.push (d : Draft) (t : Token) : Draft := { d with branch := t :: d.branch }

def Draft.openGroup (d : Draft) : Draft := ⟨[], ([], d.branch) :: d.groups⟩

def Draft.closeGroup (d : Draft) : Except Error Draft :=
  match d.groups with
  | [] => .error .unopenedAlternates
  | (done, outer) :: groups =>
    .ok ⟨.alternates (d.branch.reverse :: done).reverse :: outer, groups⟩

/-- A comma: the next branch inside of a group, and the character itself outside. -/
def Draft.comma (d : Draft) : Draft :=
  match d.groups with
  | [] => d.push (.literal ',')
  | (done, outer) :: groups => ⟨[], (d.branch.reverse :: done, outer) :: groups⟩

/-- The last range with `c` as its new end. -/
def extendRange (c : Char) : List (Char × Char) → Except Error (List (Char × Char))
  | [] => .ok [(c, c)]
  | (first, _) :: rest =>
    if c < first then .error (.invalidRange first c) else .ok ((first, c) :: rest)

/-- Reads a class after its bracket and negation mark. `ranges` holds what was read in reverse,
`first` that nothing was, and `inRange` that a hyphen awaits the end of a range. -/
def classRanges (ranges : List (Char × Char)) (first inRange : Bool) :
    List Char → Except Error (List (Char × Char) × List Char)
  | [] => .error .unclosedClass
  | c :: rest =>
    if c = ']' ∧ ¬ first then
      .ok ((if inRange then ('-', '-') :: ranges else ranges).reverse, rest)
    else if c = '-' ∧ ¬ first then
      if inRange then do
        classRanges (← extendRange '-' ranges) false false rest
      else classRanges ranges false true rest
    else if inRange ∧ c ≠ ']' then do
      classRanges (← extendRange c ranges) false false rest
    else classRanges ((c, c) :: ranges) false false rest

/-- The token for `**` as a whole component after other tokens: it takes the place of the slash
before it. -/
def afterSlash (last : Bool) (branch : List Token) : List Token :=
  match branch with
  | .leadingDirectories :: rest => .leadingDirectories :: rest
  | .everythingBelow :: rest => .everythingBelow :: rest
  | _ :: rest => (if last then .everythingBelow else .innerDirectories) :: rest
  | [] => []

/-- Reads what follows `**`, which came after the character `prev`. Gives the draft with the token
for it, and what is left of the text. -/
def doubleStar (d : Draft) (prev : Option Char) (rest : List Char) : Draft × List Char :=
  let plain := (d.push .zeroOrMore).push .zeroOrMore
  let grouped := !d.groups.isEmpty
  if d.branch.isEmpty then
    match rest with
    | [] => (d.push .leadingDirectories, [])
    | '/' :: rest => (d.push .leadingDirectories, rest)
    | _ => (plain, rest)
  else if prev = some '/' ∨ (grouped ∧ (prev = some ',' ∨ prev = some '{')) then
    match rest with
    | [] => ({ d with branch := afterSlash true d.branch }, [])
    | c :: tail =>
      if grouped ∧ (c = ',' ∨ c = '}') then ({ d with branch := afterSlash true d.branch }, rest)
      else if c = '/' then ({ d with branch := afterSlash false d.branch }, tail)
      else (plain, rest)
  else (plain, rest)

/-- Reads the rest of a pattern after the character `prev`. -/
def parseFrom : Nat → Draft → Option Char → List Char → Except Error Pattern
  | 0, d, _, _ | _, d, _, [] =>
    if d.groups.isEmpty then .ok d.branch.reverse else .error .unclosedAlternates
  | fuel + 1, d, prev, c :: rest =>
    match c with
    | '?' => parseFrom fuel (d.push .any) (some c) rest
    | '*' =>
      match rest with
      | '*' :: rest =>
        let (d, left) := doubleStar d prev rest
        parseFrom fuel d (if left.length < rest.length then some '/' else some '*') left
      | _ => parseFrom fuel (d.push .zeroOrMore) (some c) rest
    | '[' =>
      let (negated, body) := match rest with
        | '!' :: body => (true, body)
        | '^' :: body => (true, body)
        | body => (false, body)
      match classRanges [] true false body with
      | .error e => .error e
      | .ok (ranges, rest) => parseFrom fuel (d.push (.oneOf negated ranges)) (some ']') rest
    | '{' => parseFrom fuel d.openGroup (some c) rest
    | '}' =>
      match d.closeGroup with
      | .error e => .error e
      | .ok d => parseFrom fuel d (some c) rest
    | ',' => parseFrom fuel d.comma (some c) rest
    | '\\' =>
      match rest with
      | [] => .error .danglingEscape
      | e :: rest => parseFrom fuel (d.push (.literal e)) (some e) rest
    | c => parseFrom fuel (d.push (.literal c)) (some c) rest

def parse (text : String) : Except Error Pattern :=
  parseFrom (text.toList.length + 1) ⟨[], []⟩ none text.toList

end Pattern
end Stencil.Glob
