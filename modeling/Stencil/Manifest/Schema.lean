import Stencil.Condition

/-!
# Manifests and their form

A manifest says where a schematic's files go, which options it needs, which paths are no templates,
and which conditions gate which paths. It is read from a JSON value: an object, whose unknown fields
do not count, or a list of the fields in order. These are the forms that `serde` 1.0 reads.
-/
namespace Stencil

/-- Paths, by pattern, and the conditions that they share. -/
structure Rule where
  paths : List String
  conditions : List Condition
  deriving DecidableEq, Repr

/-- The description of a schematic. -/
structure Manifest where
  description : String
  /-- Where the files go if the options do not say. -/
  defaultPath : String
  /-- The options that must be given. -/
  required : List String
  /-- Patterns of paths that are no templates. -/
  ignored : List String
  rules : List Rule
  /-- The paths, by pattern, that each operation gates. -/
  operations : List (Operation × List String)
  deriving DecidableEq, Repr

namespace Schema

abbrev Result (α : Type) := Except SchemaFault α

def string : Json → Result String
  | .string s => .ok s
  | _ => .error .wrongType

/-- A list of values that `item` reads. -/
def list {α : Type} (item : Json → Result α) : Json → Result (List α)
  | .array items => items.mapM item
  | _ => .error .wrongType

/-- One of several words: the text itself, or an object with the word as only key and null as its
value. -/
def word {α : Type} (all : List α) (text : α → String) (v : Json) : Result α :=
  let find (s : String) : Result α :=
    match all.find? fun a => text a == s with
    | some a => .ok a
    | none => .error (.unknownVariant s)
  match v with
  | .string s => find s
  | .object [(s, .null)] => find s
  | .object [_] => .error .wrongType
  | _ => .error .wrongType

/-- A required field of an object. -/
def field {α : Type} (name : String) (read : Json → Result α) (members : List (String × Json)) :
    Result α :=
  match members.lookup name with
  | some v => read v
  | none => .error (.missingField name)

/-- A field of an object that may be left out. -/
def fieldOr {α : Type} (name : String) (read : Json → Result α) (default : α)
    (members : List (String × Json)) : Result α :=
  match members.lookup name with
  | some v => read v
  | none => .ok default

/-- The item of a list at a place, which may be left out. -/
def itemOr {α : Type} (at_ : Nat) (read : Json → Result α) (default : α) (items : List Json) :
    Result α :=
  match items[at_]? with
  | some v => read v
  | none => .ok default

/-- The fields of a condition on an option. -/
def comparison {α : Type} (valueField : String) (read : Json → Result α) (v : Json) :
    Result (OptionKey × α) :=
  match v with
  | .object members => do
    let key ← field "option" (word OptionKey.all OptionKey.text) members
    pure (key, ← field valueField read members)
  | _ => .error .wrongType

/-- A condition: an object with one member, which names the kind of condition. -/
def condition (v : Json) : Result Condition :=
  match v with
  | .object [(kind, body)] =>
    match kind with
    | "equals" => do
      let (key, value) ← comparison "value" string body
      pure (.equals key value)
    | "not_equals" => do
      let (key, value) ← comparison "value" string body
      pure (.notEquals key value)
    | "any_of" => do
      let (key, values) ← comparison "values" (list string) body
      pure (.anyOf key values)
    | "flag" => do pure (.flag (← word Flag.all Flag.text body))
    | "not_flag" => do pure (.notFlag (← word Flag.all Flag.text body))
    | "operation" => do pure (.operation (← word Operation.all Operation.text body))
    | kind => .error (.unknownVariant kind)
  | .object _ => .error .wrongType
  | _ => .error .wrongType

def rule (v : Json) : Result Rule :=
  match v with
  | .object members => do
    let paths ← field "paths" (list string) members
    pure ⟨paths, ← fieldOr "when" (list condition) [] members⟩
  | .array items => do
    match items with
    | [] => .error .wrongLength
    | paths :: rest =>
      let paths ← list string paths
      let conditions ← itemOr 0 (list condition) [] rest
      if rest.length > 1 then .error .wrongLength else pure ⟨paths, conditions⟩
  | _ => .error .wrongType

/-- The paths of each operation, in the order of the object's keys. -/
def operations (v : Json) : Result (List (Operation × List String)) :=
  match v with
  | .object members =>
    members.mapM fun (name, paths) => do
      let operation ← word Operation.all Operation.text (.string name)
      pure (operation, ← list string paths)
  | _ => .error .wrongType

def manifest (v : Json) : Result Manifest :=
  match v with
  | .object members => do
    let description ← fieldOr "description" string "" members
    let defaultPath ← fieldOr "default_path" string "" members
    let required ← fieldOr "required" (list string) [] members
    let ignored ← fieldOr "ignore" (list string) [] members
    let rules ← fieldOr "rules" (list rule) [] members
    let operations ← fieldOr "operations" operations [] members
    pure { description, defaultPath, required, ignored, rules, operations }
  | .array items => do
    let description ← itemOr 0 string "" items
    let defaultPath ← itemOr 1 string "" items
    let required ← itemOr 2 (list string) [] items
    let ignored ← itemOr 3 (list string) [] items
    let rules ← itemOr 4 (list rule) [] items
    let operations ← itemOr 5 operations [] items
    if items.length > 6 then .error .wrongLength
    else pure { description, defaultPath, required, ignored, rules, operations }
  | _ => .error .wrongType

end Schema
end Stencil
