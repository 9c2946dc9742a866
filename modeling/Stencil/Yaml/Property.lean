import Stencil.Yaml.Cursor

/-!
# Anchors, tags and directives

The short marks of YAML that are written on one line, as `serde_yaml` 0.9 reads them.
-/
namespace Stencil.Yaml

def anchorName (s : Cursor) : Except Error (String × Cursor) :=
  let (name, s) := s.takeWhile isNameChar
  let ends := endsWord (s.peek 0)
    || (s.peek 0).any fun c => ['?', ':', ',', ']', '}', '%', '@', '\x60'].contains c
  if name.isEmpty || !ends then .error .badAnchor else .ok (String.ofList name, s)

/-- The value of a byte written with two hexadecimal digits. -/
def escapedByte? : List Char → Option UInt8
  | '%' :: a :: b :: _ => do
    pure (UInt8.ofNat ((← Json.hexDigit? a) * 16 + (← Json.hexDigit? b)))
  | _ => none

/-- How many bytes a character takes whose first byte is `b`. -/
def byteWidth? (b : UInt8) : Option Nat :=
  if b < 0x80 then some 1
  else if b &&& 0xE0 == 0xC0 then some 2
  else if b &&& 0xF0 == 0xE0 then some 3
  else if b &&& 0xF8 == 0xF0 then some 4
  else none

/-- The character that stands escaped at the start of `cs`, and how many characters it takes. -/
def escapedChar? (cs : List Char) : Option (Char × Nat) := do
  let first ← escapedByte? cs
  let width ← byteWidth? first
  let bytes ← (List.range width).mapM fun i => escapedByte? (cs.drop (3 * i))
  let text ← String.fromUTF8? (ByteArray.mk bytes.toArray)
  match text.toList with
  | [c] => some (c, 3 * width)
  | _ => none

/-- Whether `c` may stand in a tag. `inFull` allows the characters of full tags as well. -/
def isTagChar (inFull : Bool) (c : Char) : Bool :=
  isNameChar c || ";/?:@&=+$.%!~*'()".toList.contains c || (inFull && ",[]".toList.contains c)

def tagText (inFull : Bool) : Nat → Cursor → Except Error (List Char × Cursor)
  | 0, s => .ok ([], s)
  | fuel + 1, s =>
    match s.peek 0 with
    | none => .ok ([], s)
    | some c =>
      if !isTagChar inFull c then .ok ([], s)
      else if c = '%' then
        match escapedChar? s.rest with
        | none => .error .badTag
        | some (d, n) => do
          let (text, s) ← tagText inFull fuel (s.skip n)
          pure (d :: text, s)
      else do
        let (text, s) ← tagText inFull fuel (s.skip 1)
        pure (c :: text, s)

/-- Reads a tag handle: an exclamation mark, and a name with another one if there is one. -/
def tagHandle (s : Cursor) : Except Error (List Char × Cursor) :=
  if s.peek 0 ≠ some '!' then .error .badTag
  else
    let (name, s) := (s.skip 1).takeWhile isNameChar
    if s.peek 0 = some '!' then .ok ('!' :: name ++ ['!'], s.skip 1) else .ok ('!' :: name, s)

/-- Reads a tag as its handle and what follows it. -/
def tag (inFlow : Bool) (s : Cursor) : Except Error ((String × String) × Cursor) := do
  let ((handle, suffix), s) ← body s
  if (inFlow && s.peek 0 == some ',') || endsWord (s.peek 0) then
    pure ((String.ofList handle, String.ofList suffix), s)
  else .error .badTag
where
  /-- A tag in angle brackets, with a handle, or without one. -/
  body (s : Cursor) : Except Error ((List Char × List Char) × Cursor) := do
    if s.peek 1 = some '<' then
      let s := s.skip 2
      let (text, s) ← tagText true (s.rest.length + 1) s
      if text.isEmpty || s.peek 0 != some '>' then .error .badTag else pure (([], text), s.skip 1)
    else
      let (handle, s) ← tagHandle s
      let (text, s) ← tagText false (s.rest.length + 1) s
      if handle.length > 1 && handle.getLast? == some '!' then
        if text.isEmpty then .error .badTag else pure ((handle, text), s)
      else
        let suffix := handle.tail ++ text
        if suffix.isEmpty then pure (([], ['!']), s) else pure ((['!'], suffix), s)

inductive Directive
  | version (major minor : Nat)
  | tag (handle start : String)

def versionNumber (s : Cursor) : Except Error (Nat × Cursor) :=
  let (ds, s) := s.takeWhile Char.isDigit
  if ds.isEmpty || ds.length > 9 then .error .badDirective
  else .ok (ds.foldl (fun n d => n * 10 + (d.toNat - 48)) 0, s)

/-- Reads a directive with its line after the percent sign. -/
def directive (s : Cursor) : Except Error (Directive × Cursor) := do
  let (name, s) := s.takeWhile isNameChar
  if name.isEmpty || !endsWord (s.peek 0) then .error .badDirective
  else
    let s := (s.takeWhile isBlank).2
    if name = "YAML".toList then
      let (major, s) ← versionNumber s
      if s.peek 0 ≠ some '.' then .error .badDirective
      else
        let (minor, s) ← versionNumber (s.skip 1)
        pure (.version major minor, ← s.finishLine .badDirective)
    else if name = "TAG".toList then
      let (handle, s) ← tagHandle s
      if handle.length > 1 && handle.getLast? != some '!' then .error .badDirective
      else if !(s.peek 0).any isBlank then .error .badDirective
      else
        let s := (s.takeWhile isBlank).2
        let (start, s) ← tagText true (s.rest.length + 1) s
        if start.isEmpty || !endsWord (s.peek 0) then .error .badDirective
        else
          pure (.tag (String.ofList handle) (String.ofList start), ← s.finishLine .badDirective)
    else .error .badDirective

end Stencil.Yaml
