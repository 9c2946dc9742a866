import Stencil.Yaml.Token

/-!
# Nodes of a YAML document

The tree that the tokens of a document describe. An alias holds the node of its anchor. `read`
accepts a text with at most one document; an empty text holds an empty scalar. The grammar is that
of `serde_yaml` 0.9.
-/
namespace Stencil.Yaml

/-- A node; `tag` is its tag with the handle resolved. -/
inductive Node
  | scalar (tag : Option String) (isPlain : Bool) (text : String)
  | sequence (tag : Option String) (items : List Node)
  | mapping (tag : Option String) (entries : List (Node × Node))
  /-- The node of an anchor; `none` stands for a node that holds the alias itself. -/
  | alias (target : Option Node)
  deriving Inhabited

namespace Node

/-- The empty scalar that stands where a node is left out. -/
def empty : Node := .scalar none true ""

/-- What the reader knows: the tag handles of the document, the anchors so far, and how many nodes
and ends of collections it has seen. -/
structure Context where
  handles : List (String × String)
  anchors : List (String × Option Node)
  events : Nat

/-- The reader of a part of a document: from tokens to a value, the rest of the tokens and the
context after it. -/
abbrev Reading (α : Type) := List Token → Context → Except Error (α × List Token × Context)

def Context.count (c : Context) (n : Nat) : Context := { c with events := c.events + n }

/-- Notes that `name` stands for `node`. -/
def Context.define (c : Context) (name : Option String) (node : Option Node) : Context :=
  match name with
  | some name => { c with anchors := (name, node) :: c.anchors }
  | none => c

/-- The full tag of a handle and what follows it. -/
def Context.resolve (c : Context) (handle suffix : String) : Except Error String :=
  if handle = "" then .ok suffix
  else match c.handles.lookup handle with
    | some start => .ok (start ++ suffix)
    | none => .error .unknownTagHandle

/-- The anchor and the tag before a node. -/
structure Properties where
  anchor : Option String
  tag : Option String

/-- Reads an anchor and a tag, in either order. -/
def properties : List Token → Context → Except Error (Properties × List Token)
  | .anchor a :: .tag h s :: rest, c => do pure (⟨some a, some (← c.resolve h s)⟩, rest)
  | .tag h s :: .anchor a :: rest, c => do pure (⟨some a, some (← c.resolve h s)⟩, rest)
  | .anchor a :: rest, _ => .ok (⟨some a, none⟩, rest)
  | .tag h s :: rest, c => do pure (⟨none, some (← c.resolve h s)⟩, rest)
  | rest, _ => .ok (⟨none, none⟩, rest)

def nextIs (p : Token → Bool) : List Token → Bool
  | t :: _ => p t
  | [] => false

/-- Whether a token ends the part of a block mapping before it. -/
def endsBlockPart : Token → Bool
  | .key | .value | .blockEnd => true
  | _ => false

/-- Whether a token ends an entry of a sequence whose end is not marked. -/
def endsLooseEntry : Token → Bool
  | .entry | .key | .value | .blockEnd => true
  | _ => false

/-- Whether a token ends an entry of a block sequence. -/
def endsBlockEntry : Token → Bool
  | .entry | .blockEnd => true
  | _ => false

/-- Whether a token ends a key inside of brackets that close with `close`. -/
def endsFlowKey (isClose : Token → Bool) (t : Token) : Bool :=
  match t with
  | .value | .comma => true
  | t => isClose t

/-- Whether a token ends a value inside of brackets. -/
def endsFlowValue (isClose : Token → Bool) (t : Token) : Bool :=
  match t with
  | .comma => true
  | t => isClose t

def isCloseBracket : Token → Bool
  | .closeBracket => true
  | _ => false

def isCloseBrace : Token → Bool
  | .closeBrace => true
  | _ => false

mutual

/-- Reads a node. `inBlock` allows block collections, and `loose` a sequence at the column of the
mapping around it. -/
def node : Nat → Bool → Bool → Reading Node
  | 0, _, _, _, _ => .error .expectedNode
  | fuel + 1, inBlock, loose, ts, c =>
    match ts with
    | .alias name :: rest =>
      match c.anchors.lookup name with
      | some target => .ok (.alias target, rest, c.count 1)
      | none => .error .unknownAlias
    | ts => do
      let (p, ts) ← properties ts c
      let c := c.define p.anchor none
      let (n, ts, c) ← content fuel inBlock loose p ts c
      pure (n, ts, c.define p.anchor (some n))

def content : Nat → Bool → Bool → Properties → Reading Node
  | 0, _, _, _, _, _ => .error .expectedNode
  | fuel + 1, inBlock, loose, p, ts, c =>
    let tag := p.tag
    match ts with
    | .scalar text isPlain :: rest =>
      .ok (.scalar (if tag = some "!" then none else tag) isPlain text, rest, c.count 1)
    | .openBracket :: rest => do
      let (items, rest, c) ← flowSequence fuel true rest c
      pure (.sequence tag items, rest, c.count 2)
    | .openBrace :: rest => do
      let (entries, rest, c) ← flowMapping fuel true rest c
      pure (.mapping tag entries, rest, c.count 2)
    | ts =>
      match ts, inBlock, loose with
      | .entry :: _, _, true => do
        let (items, rest, c) ← looseSequence fuel ts c
        pure (.sequence tag items, rest, c.count 2)
      | .sequenceStart :: rest, true, _ => do
        let (items, rest, c) ← blockSequence fuel rest c
        pure (.sequence tag items, rest, c.count 2)
      | .mappingStart :: rest, true, _ => do
        let (entries, rest, c) ← blockMapping fuel rest c
        pure (.mapping tag entries, rest, c.count 2)
      | _, _, _ =>
        if p.anchor.isSome || tag.isSome then .ok (.scalar tag true "", ts, c.count 1)
        else .error .expectedNode

/-- Reads a node, or takes it as left out before a token that satisfies `ends`. -/
def nodeUnless : Nat → (Token → Bool) → Bool → Bool → Reading Node
  | 0, _, _, _, _, _ => .error .expectedNode
  | fuel + 1, ends, inBlock, loose, ts, c =>
    if nextIs ends ts then .ok (empty, ts, c.count 1) else node fuel inBlock loose ts c

def blockSequence : Nat → Reading (List Node)
  | 0, _, _ => .error .expectedEntry
  | fuel + 1, ts, c =>
    match ts with
    | .entry :: rest => do
      let (n, rest, c) ← nodeUnless fuel endsBlockEntry true false rest c
      let (items, rest, c) ← blockSequence fuel rest c
      pure (n :: items, rest, c)
    | .blockEnd :: rest => .ok ([], rest, c)
    | _ => .error .expectedEntry

/-- Reads the items of a sequence whose end is not marked. -/
def looseSequence : Nat → Reading (List Node)
  | 0, _, _ => .error .expectedEntry
  | fuel + 1, ts, c =>
    match ts with
    | .entry :: rest => do
      let (n, rest, c) ← nodeUnless fuel endsLooseEntry true false rest c
      let (items, rest, c) ← looseSequence fuel rest c
      pure (n :: items, rest, c)
    | ts => .ok ([], ts, c)

def blockMapping : Nat → Reading (List (Node × Node))
  | 0, _, _ => .error .expectedEntry
  | fuel + 1, ts, c =>
    match ts with
    | .key :: rest => do
      let (k, rest, c) ← nodeUnless fuel endsBlockPart true true rest c
      let (v, rest, c) ← match rest with
        | .value :: rest => nodeUnless fuel endsBlockPart true true rest c
        | rest => .ok (empty, rest, c.count 1)
      let (entries, rest, c) ← blockMapping fuel rest c
      pure ((k, v) :: entries, rest, c)
    | .blockEnd :: rest => .ok ([], rest, c)
    | _ => .error .expectedEntry

/-- Reads the value of an entry inside of brackets, if a colon comes. -/
def flowValue : Nat → (Token → Bool) → Reading Node
  | 0, _, _, _ => .error .expectedNode
  | fuel + 1, isClose, ts, c =>
    match ts with
    | .value :: rest => nodeUnless fuel (endsFlowValue isClose) false false rest c
    | ts => .ok (empty, ts, c.count 1)

def flowSequence : Nat → Bool → Reading (List Node)
  | 0, _, _, _ => .error .unclosedFlow
  | fuel + 1, first, ts, c =>
    match first, ts with
    | _, .closeBracket :: rest => .ok ([], rest, c)
    | false, .comma :: .closeBracket :: rest => .ok ([], rest, c)
    | false, .comma :: rest => flowItem fuel rest c
    | true, ts => flowItem fuel ts c
    | false, _ => .error .unclosedFlow

/-- Reads an item of a sequence in brackets, which may be a single entry of a mapping, and the
items after it. A key that is left out takes the token after it along. -/
def flowItem : Nat → Reading (List Node)
  | 0, _, _ => .error .unclosedFlow
  | fuel + 1, ts, c =>
    match ts with
    | .key :: rest => do
      let (k, rest, c) ←
        if nextIs (endsFlowKey isCloseBracket) rest then
          Except.ok (empty, rest.tail, c.count 1)
        else node fuel false false rest c
      let (v, rest, c) ← flowValue fuel isCloseBracket rest c
      let (items, rest, c) ← flowSequence fuel false rest (c.count 2)
      pure (.mapping none [(k, v)] :: items, rest, c)
    | ts => do
      let (n, rest, c) ← node fuel false false ts c
      let (items, rest, c) ← flowSequence fuel false rest c
      pure (n :: items, rest, c)

def flowMapping : Nat → Bool → Reading (List (Node × Node))
  | 0, _, _, _ => .error .unclosedFlow
  | fuel + 1, first, ts, c =>
    match first, ts with
    | _, .closeBrace :: rest => .ok ([], rest, c)
    | false, .comma :: .closeBrace :: rest => .ok ([], rest, c)
    | false, .comma :: rest => flowEntry fuel rest c
    | true, ts => flowEntry fuel ts c
    | false, _ => .error .unclosedFlow

/-- Reads an entry of a mapping in braces and the entries after it. An entry that is not marked as
a key has no value. -/
def flowEntry : Nat → Reading (List (Node × Node))
  | 0, _, _ => .error .unclosedFlow
  | fuel + 1, ts, c =>
    match ts with
    | .key :: rest => do
      let (k, rest, c) ← nodeUnless fuel (endsFlowKey isCloseBrace) false false rest c
      let (v, rest, c) ← flowValue fuel isCloseBrace rest c
      let (entries, rest, c) ← flowMapping fuel false rest c
      pure ((k, v) :: entries, rest, c)
    | ts => do
      let (k, rest, c) ← node fuel false false ts c
      let (entries, rest, c) ← flowMapping fuel false rest (c.count 1)
      pure ((k, empty) :: entries, rest, c)

end

/-- The handles that every document knows. -/
def standardHandles : List (String × String) := [("!", "!"), ("!!", "tag:yaml.org,2002:")]

def directives : Bool → List (String × String) → List Token →
    Except Error (List (String × String) × List Token)
  | versioned, handles, .directive (.version major minor) :: rest =>
    if versioned || major != 1 || (minor != 1 && minor != 2) then .error .badDirective
    else directives true handles rest
  | versioned, handles, .directive (.tag handle start) :: rest =>
    if (handles.lookup handle).isSome then .error .badDirective
    else directives versioned ((handle, start) :: handles) rest
  | _, handles, ts => .ok (handles, ts)

def endsDocument : Token → Bool
  | .directive _ | .documentStart | .documentEnd | .streamEnd => true
  | _ => false

def document (handles : List (String × String)) (ts : List Token) :
    Except Error (Node × List Token × Context) :=
  let c : Context := ⟨handles ++ standardHandles, [], 0⟩
  nodeUnless (8 * ts.length + 8) endsDocument true false ts c

/-- Passes over the marks of ended documents. -/
def skipDocumentEnds : List Token → List Token
  | .documentEnd :: rest => skipDocumentEnds rest
  | ts => ts

/-- Reads a text that holds one document or none. Gives the node and the number of its events. -/
def read (text : String) : Except Error (Node × Nat) := do
  let ts := (← tokenize text).toList
  if nextIs (fun | .streamEnd => true | _ => false) ts then pure (empty, 1)
  else
    let (handles, rest) ← directives false [] ts
    let (n, rest, c) ← match rest with
      | .documentStart :: rest => document handles rest
      | rest =>
        if nextIs (fun | .directive _ => true | _ => false) ts then .error .expectedDocument
        else if nextIs (fun | .documentEnd => true | _ => false) ts then .error .expectedNode
        else document [] rest
    match skipDocumentEnds rest with
    | .streamEnd :: _ => pure (n, c.events)
    | .documentStart :: _ => .error .severalDocuments
    | _ => .error .expectedDocument

end Node
end Stencil.Yaml
