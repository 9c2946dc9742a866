import Stencil.Template.Render

/-!
# Placeholders among the bytes of a template

A template can be rendered by its bytes. Braces, quotes and backslashes are single bytes, so the end
of a placeholder is looked for without regard to characters (`findClose`): behind a backslash one
byte is passed over, whatever character stands there. The template is cut at the places that are
found; to cut within a character is undefined (`slice?`).
-/
namespace Stencil.Template

/-- The place of the two closing braces that end a placeholder, which is read from the byte at `i`
on. `quote` is the mark of the quoted text that is open. -/
def findCloseFrom (bytes : ByteArray) (quote : Option UInt8) (i : Nat) : Option Nat :=
  if h : i < bytes.size then
    let byte := bytes[i]
    match quote with
    | some q =>
      if byte = '\\'.toUInt8 then findCloseFrom bytes (some q) (i + 2)
      else if byte = q then findCloseFrom bytes none (i + 1)
      else findCloseFrom bytes (some q) (i + 1)
    | none =>
      if byte = '"'.toUInt8 ∨ byte = '\''.toUInt8 then findCloseFrom bytes (some byte) (i + 1)
      else if byte = '\x7d'.toUInt8 ∧ bytes[i + 1]? = some '\x7d'.toUInt8 then some i
      else findCloseFrom bytes none (i + 1)
  else none
termination_by bytes.size - i

/-- The place of the two closing braces that end a placeholder whose body begins at `start`
(`find_close`). -/
def findClose (template : String) (start : Nat) : Option Nat :=
  findCloseFrom template.toUTF8 none start

theorem bounds_of_findCloseFrom {bytes : ByteArray} {quote : Option UInt8} {i close : Nat}
    (h : findCloseFrom bytes quote i = some close) : i ≤ close ∧ close < bytes.size := by
  fun_induction findCloseFrom bytes quote i with
  | case1 | case2 | case3 | case4 | case6 =>
    rename_i ih
    have := ih h
    omega
  | case5 =>
    cases h
    exact ⟨Nat.le_refl _, ‹_›⟩
  | case7 => cases h

/-- The number of bytes in front of the first two opening braces. -/
def findOpen : List Char → Option Nat
  | [] => none
  | '\x7b' :: '\x7b' :: _ => some 0
  | c :: rest => (findOpen rest).map (c.utf8Size + ·)

/-- The text between two places, which must be boundaries of characters. -/
def slice? (s : String) (i j : Nat) : Option String := do
  let first ← s.pos? ⟨i⟩
  let last ← s.pos? ⟨j⟩
  if i ≤ j then some (s.extract first last) else none

/-- What is found in the rest of a template. -/
inductive Cut
  /-- Text without a placeholder in it. -/
  | plain (text : String)
  /-- A placeholder that is not closed. -/
  | unterminated
  /-- The text in front of a placeholder, its body, and the place behind it. -/
  | placeholder (text body : String) (next : Nat)
  deriving DecidableEq, Repr

/-- The first part of a template from `cursor` on. There is none if a slice is undefined. -/
def cut (template : String) (cursor : Nat) : Option Cut := do
  let rest ← slice? template cursor template.utf8ByteSize
  match findOpen rest.toList with
  | none => some (.plain rest)
  | some offset =>
    match findClose template (cursor + offset + 2) with
    | none => some .unterminated
    | some close => do
      let text ← slice? template cursor (cursor + offset)
      let body ← slice? template (cursor + offset + 2) close
      some (.placeholder text body (close + 2))

theorem lt_of_cut {template text body : String} {cursor next : Nat}
    (h : cut template cursor = some (.placeholder text body next)) :
    cursor < next ∧ cursor < template.utf8ByteSize := by
  obtain ⟨rest, -, h⟩ := Option.bind_eq_some_iff.1 h
  split at h
  · cases h
  · split at h
    · cases h
    · rename_i close hclose
      obtain ⟨_, -, h⟩ := Option.bind_eq_some_iff.1 h
      obtain ⟨_, -, h⟩ := Option.bind_eq_some_iff.1 h
      cases h
      obtain ⟨hle, hlt⟩ := bounds_of_findCloseFrom hclose
      have hsize : template.toUTF8.size = template.utf8ByteSize := rfl
      omega

/-- Renders a template from `cursor` on, placeholders by `value`. There is no answer if a slice is
undefined. -/
def renderFrom (value : List Char → Except TemplateFault (List Char)) (template : String)
    (cursor : Nat) : Option (Except TemplateFault String) :=
  match _ : cut template cursor with
  | none => none
  | some (.plain text) => some (.ok text)
  | some .unterminated => some (.error .unterminated)
  | some (.placeholder text body next) =>
    match value body.toList with
    | .error fault => some (.error fault)
    | .ok result =>
      (renderFrom value template next).map fun rest =>
        rest.map fun rest => text ++ String.ofList result ++ rest
termination_by template.utf8ByteSize - cursor
decreasing_by
  have := lt_of_cut ‹_›
  omega

def renderBytes (origin template : String) (c : Context) : Option (Except Failure String) :=
  (renderFrom (evaluate c) template 0).map fun result => result.mapError (.template origin)

end Stencil.Template
