import Stencil.Yaml.Node
import Stencil.Decimal.Reading

/-!
# YAML documents as JSON values

Plain scalars without a tag are read by their form: empty ones and the words for null, the words
for truth values, whole numbers and decimals; all others, and all quoted ones, are texts. Keys are
texts whatever their form. The forms are those of `serde_yaml` 0.9.
-/
namespace Stencil.Yaml

def isNull (s : String) : Bool := ["null", "Null", "NULL", "~"].contains s

def bool? (s : String) : Option Bool :=
  if ["true", "True", "TRUE"].contains s then some true
  else if ["false", "False", "FALSE"].contains s then some false
  else none

/-- Digits with a leading zero, which are no number. -/
def hasLeadingZero (cs : List Char) : Bool :=
  let ds := match cs with
    | '-' :: rest => rest
    | '+' :: rest => rest
    | rest => rest
  ds.length > 1 && ds.head? == some '0' && ds.all Char.isDigit

/-- The value of digits in a base, of which there must be one. -/
def natInBase? (base : Nat) (cs : List Char) : Option Nat := do
  let ds ← cs.mapM Json.hexDigit?
  if ds.isEmpty || ds.any (base ≤ ·) then none else some (ds.foldl (fun n d => n * base + d) 0)

/-- The base that a number names at its start, and the digits after it. -/
def based? : List Char → Option (Nat × List Char)
  | '0' :: 'x' :: rest => some (16, rest)
  | '0' :: 'o' :: rest => some (8, rest)
  | '0' :: 'b' :: rest => some (2, rest)
  | _ => none

def int? (cs : List Char) : Option Int :=
  let (negative, body) := match cs with
    | '-' :: rest => (true, rest)
    | '+' :: rest => (false, rest)
    | rest => (false, rest)
  let value := match based? body with
    | some (base, ds) => natInBase? base ds
    | none => if hasLeadingZero cs then none else natInBase? 10 body
  value.map fun n => if negative then -(n : Int) else n

/-- The decimal that a text stands for; `none` inside for the values that JSON has no number for. -/
def real? (cs : List Char) : Option (Option Float) :=
  let (sign, body) := match cs with
    | '-' :: rest => (some '-', rest)
    | '+' :: rest => (some '+', rest)
    | rest => (none, rest)
  let word := String.ofList body
  if [".inf", ".Inf", ".INF"].contains word then some none
  else if [".nan", ".NaN", ".NAN"].contains word && sign.isNone then some none
  else match Decimal.parse? body with
    | some x =>
      if x.isFinite then some (some (if sign = some '-' then -x else x)) else none
    | none => none

/-- A whole number as JSON: it must fit 64 bits. -/
def wholeNumber (n : Int) : Except Error Json :=
  if -(twoTo 63 : Int) ≤ n ∧ n < twoTo 64 then .ok (.number (.whole n))
  else .error .numberOutOfRange

def realNumber : Option Float → Json
  | some x => .number (.real x)
  | none => .null

/-- What a plain scalar without a tag stands for. A whole number of more than 128 bits is read as a
decimal. -/
def plainValue (s : String) : Except Error Json :=
  if s = "" ∨ isNull s then .ok .null
  else match bool? s with
    | some b => .ok (.bool b)
    | none =>
      match int? s.toList with
      | some n =>
        if -(twoTo 127 : Int) ≤ n ∧ n < twoTo 128 then wholeNumber n
        else match real? s.toList with
          | some x => .ok (realNumber x)
          | none => .ok (.string s)
      | none =>
        if hasLeadingZero s.toList then .ok (.string s)
        else match real? s.toList with
          | some x => .ok (realNumber x)
          | none => .ok (.string s)

/-- The tag of YAML's own type `name`. -/
def coreTag (name : String) : String := "tag:yaml.org,2002:" ++ name

/-- What a scalar stands for. A tag of YAML's own asks for a form; one of the document's own, which
starts with an exclamation mark, is refused. -/
def scalarValue (tag : Option String) (isPlain : Bool) (s : String) : Except Error Json :=
  match tag with
  | none => if isPlain then plainValue s else .ok (.string s)
  | some tag =>
    if tag.toList.head? = some '!' then .error .taggedValue
    else if tag = coreTag "bool" then
      match bool? s with
      | some b => .ok (.bool b)
      | none => .error .badScalar
    else if tag = coreTag "int" then
      match int? s.toList with
      | some n => wholeNumber n
      | none => .error .badScalar
    else if tag = coreTag "float" then
      match real? s.toList with
      | some x => .ok (realNumber x)
      | none => .error .badScalar
    else if tag = coreTag "null" then
      if isNull s then .ok .null else .error .badScalar
    else .ok (.string s)

/-- Fails for a collection with a tag of the document's own. -/
def checkCollectionTag (tag : Option String) : Except Error Unit :=
  if tag.any fun t => t.toList.head? = some '!' then .error .taggedValue else .ok ()

/-- How many aliases may still be followed. -/
abbrev Jumps := Nat

mutual

/-- The value of a node. `depth` more collections may be entered and `jumps` more aliases
followed. -/
def Node.value (depth : Nat) (jumps : Jumps) : Node → Except Error (Json × Jumps)
  | .scalar tag isPlain text => do pure (← scalarValue tag isPlain text, jumps)
  | .sequence tag items => do
    checkCollectionTag tag
    match depth with
    | 0 => .error .tooDeep
    | depth + 1 =>
      let (values, jumps) ← Node.values depth jumps items
      pure (.array values, jumps)
  | .mapping tag entries => do
    checkCollectionTag tag
    match depth with
    | 0 => .error .tooDeep
    | depth + 1 =>
      let (members, jumps) ← Node.members depth jumps entries
      pure (Json.ofMembers members, jumps)
  | .alias none => .error .tooDeep
  | .alias (some target) =>
    match jumps with
    | 0 => .error .tooManyAliases
    | jumps + 1 => Node.value depth jumps target

def Node.values (depth : Nat) (jumps : Jumps) : List Node → Except Error (List Json × Jumps)
  | [] => .ok ([], jumps)
  | n :: rest => do
    let (v, jumps) ← Node.value depth jumps n
    let (vs, jumps) ← Node.values depth jumps rest
    pure (v :: vs, jumps)

def Node.members (depth : Nat) (jumps : Jumps) :
    List (Node × Node) → Except Error (List (String × Json) × Jumps)
  | [] => .ok ([], jumps)
  | (k, n) :: rest => do
    let (key, jumps) ← Node.key jumps k
    let (v, jumps) ← Node.value depth jumps n
    let (vs, jumps) ← Node.members depth jumps rest
    pure ((key, v) :: vs, jumps)

def Node.key (jumps : Jumps) : Node → Except Error (String × Jumps)
  | .scalar _ _ text => .ok (text, jumps)
  | .alias (some target) =>
    match jumps with
    | 0 => .error .tooManyAliases
    | jumps + 1 => Node.key jumps target
  | _ => .error .keyNotScalar

end

/-- How deep collections may be nested. -/
def maxDepth : Nat := 128

/-- The value that a YAML text stands for. -/
def read (text : String) : Except Error Json := do
  let (node, events) ← Node.read text
  let (value, _) ← node.value maxDepth (100 * events)
  pure value

end Stencil.Yaml
