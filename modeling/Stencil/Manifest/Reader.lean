import Stencil.Manifest.Schema
import Stencil.Yaml.Resolve
import Stencil.Glob.Match

/-!
# Reading manifests

A manifest is written in JSON or in YAML; a text that is no JSON is read as YAML, and an empty one
stands for a manifest without any fields. Every condition of a manifest that was read is validated.
Its rules are compiled to patterns before they are used.
-/
namespace Stencil

namespace Manifest

/-- The names under which a manifest is looked for, in this order (`MANIFEST_FILES`). -/
def fileNames : List String := ["schematic.json", "schematic.yml", "schematic.yaml"]

/-- The value that a text stands for, as JSON or else as YAML. -/
def readValue (text : String) : Except Yaml.Error Json :=
  match Json.read text with
  | .ok v => .ok v
  | .error _ => Yaml.read text

/-- A condition in its plain form; errors name the manifest. -/
def validateCondition (origin : String) (c : Condition) : Except Failure Condition :=
  match c.validated with
  | .ok c => .ok c
  | .error (.invalidOptions field fault) => .error (.manifest origin (.condition field fault))
  | .error e => .error e

/-- A rule with its conditions in plain form (`Manifest.validated`). -/
def validateRule (origin : String) (r : Rule) : Except Failure Rule := do
  pure { r with conditions := ← r.conditions.mapM (validateCondition origin) }

/-- Reads a manifest (`Manifest.parse`); errors name `origin`. -/
def parse (origin text : String) : Except Failure Manifest :=
  match readValue text with
  | .error e => .error (.manifest origin (.notReadable e))
  | .ok v =>
    match Schema.manifest (match v with
      | .null => .object []
      | v => v) with
    | .error e => .error (.manifest origin (.schema e))
    | .ok m => do pure { m with rules := ← m.rules.mapM (validateRule origin) }

end Manifest

/-- A rule with its patterns ready for use. -/
structure CompiledRule where
  patterns : Glob.PatternSet
  conditions : List Condition

def CompiledRule.covers (r : CompiledRule) (path : String) : Bool := r.patterns.covers path

namespace Manifest

/-- Compiles patterns (`compile_globs`); errors name `origin`. -/
def compilePatterns (origin : String) (patterns : List String) : Except Failure Glob.PatternSet :=
  patterns.mapM fun text =>
    match Glob.Pattern.parse text with
    | .ok p => .ok p
    | .error e => .error (.manifest origin (.badPattern text e))

/-- Compiles the rules of the manifest and, after them, one rule for each operation
(`Manifest.compile_rules`). -/
def compile (m : Manifest) (origin : String) : Except Failure (List CompiledRule) := do
  let explicit ← m.rules.mapM fun r => do
    pure { patterns := ← compilePatterns origin r.paths, conditions := r.conditions : CompiledRule }
  let gated ← m.operations.mapM fun (operation, paths) => do
    pure { patterns := ← compilePatterns origin paths,
           conditions := [.operation operation] : CompiledRule }
  pure (explicit ++ gated)

/-- Patterns of paths that are never templates (`DEFAULT_IGNORE_PATTERNS`). -/
def alwaysIgnored : List String := ["**/.DS_Store", "**/.gitkeep", "**/Thumbs.db"]

/-- The patterns of paths that are no templates (`build_ignore_set`); errors name `origin`. -/
def ignorePatterns (origin : String) (patterns : List String) : Except Failure Glob.PatternSet :=
  (alwaysIgnored ++ patterns).mapM fun text =>
    match Glob.Pattern.parse text with
    | .ok p => .ok p
    | .error e => .error (.manifest origin (.badIgnorePattern text e))

end Manifest
end Stencil
