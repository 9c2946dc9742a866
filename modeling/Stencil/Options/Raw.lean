import Stencil.Json.Reader
import Stencil.Identifier.Casing
import Stencil.Options.Choice

/-!
# Options as they are given

A caller gives options as JSON values under keys, in any order and spelling. `canonicalize` brings
each key to its canonical name and keeps one value per name: the last one that is not null. Entries
keep their order as in a map of `indexmap` 2.
-/
namespace Stencil

/-- Options in the order in which they were given. -/
abbrev RawOptions := List (String × Json)

namespace RawOptions

/-- Gives `key` a value: in the place of its old one, or else at the end. -/
def insert (key : String) (value : Json) : RawOptions → RawOptions
  | [] => [(key, value)]
  | (k, v) :: rest => if k = key then (key, value) :: rest else (k, v) :: insert key value rest

/-- The options of a list of entries; a repeated key keeps its first place and takes its last
value. -/
def ofList (entries : List (String × Json)) : RawOptions :=
  entries.foldl (fun options e => insert e.1 e.2 options) []

/-- `base` with the entries of `top` inserted one by one. -/
def overlay (base top : RawOptions) : RawOptions :=
  top.foldl (fun options e => insert e.1 e.2 options) base

/-- The canonical name that a key stands for (`canonical_key`). -/
def canonicalKey (key : String) : String :=
  let name := Identifier.snakeCase key
  if name = "kafka" then "messaging"
  else if name = "auth_mode" then "auth"
  else if name = "crud_mode" then "crud"
  else if name = "db" then "database"
  else if name = "ops" then "operations"
  else name

/-- The names of all options (`KNOWN_KEYS`). -/
def knownKeys : List String :=
  ["name", "path", "database", "messaging", "auth", "crud", "operations", "skip_tests", "flat",
    "dry_run", "apply_migrations", "force", "schematic"]

/-- Adds an entry under its canonical name. Unknown names and null values are left out. -/
def addCanonical (options : RawOptions) (entry : String × Json) : RawOptions :=
  let key := canonicalKey entry.1
  if knownKeys.contains key then
    match entry.2 with
    | .null => options
    | value => insert key value options
  else options

/-- The options under their canonical names (`canonicalize`). -/
def canonicalize (raw : RawOptions) : RawOptions := raw.foldl addCanonical []

/-- Reads options from a text that holds a JSON object (`parse_options_json`). A blank text holds
none. -/
def parse (text : String) : Except Failure RawOptions :=
  let text := Text.trim text
  if text = "" then .ok []
  else match Json.readMembers text with
    | .ok members => .ok (ofList members)
    | .error problem => .error (.invalidOptions "stdin" (.notJson problem))

mutual

/-- A value as text (`string_value`): numbers and truth values as they are written, and the items of
a list with commas between them. -/
def textOf (field : String) : Json → Except Failure String
  | .string s => .ok (Text.trim s)
  | .number n => .ok n.text
  | .bool b => .ok (if b then "true" else "false")
  | .array items => do
    let parts ← textsOf field items
    pure (",".intercalate parts)
  | .null | .object _ => .error (.invalidOptions field .notText)

def textsOf (field : String) : List Json → Except Failure (List String)
  | [] => .ok []
  | item :: rest => do
    let first ← textOf field item
    let others ← textsOf field rest
    pure (first :: others)

end

/-- A value as truth value (`bool_value`). -/
def truthOf (field : String) : Json → Except Failure Bool
  | .bool b => .ok b
  | .string s =>
    let word := plainWord s
    if ["true", "yes", "1"].contains word then .ok true
    else if ["false", "no", "0", ""].contains word then .ok false
    else .error (.invalidOptions field (.notBoolean (some word)))
  | .number (.whole 0) => .ok false
  | .number (.whole 1) => .ok true
  | _ => .error (.invalidOptions field (.notBoolean none))

/-- The text under a canonical name, if there is one that is not empty (`optional_string`). -/
def text? (options : RawOptions) (field : String) : Except Failure (Option String) :=
  match options.lookup field with
  | none => .ok none
  | some value => do
    let s ← textOf field value
    pure (if s = "" then none else some s)

/-- The value of a choice under its canonical name, or `default` (`parse_or_default`). -/
def choice {α : Type} [Choice α] (options : RawOptions) (field : String) (default : α) :
    Except Failure α := do
  match ← text? options field with
  | some s => Choice.parse s
  | none => pure default

/-- The switch under a canonical name (`flag_value`); one that is not given is off. -/
def switch (options : RawOptions) (field : String) : Except Failure Bool :=
  match options.lookup field with
  | none => .ok false
  | some value => truthOf field value

end RawOptions
end Stencil
