import Stencil.Options.Normalized
import Stencil.Expression.Eval

/-!
# The names that placeholders know

A template sees the name in all its styles, the destination, the choices and two switches. It sees
none of the switches that change how a run lays out or writes its files: a preview renders what a
commit writes.
-/
namespace Stencil.Template

/-- The values that placeholders are evaluated with (`RenderContext`). -/
structure Context where
  name : String
  className : String
  dashName : String
  camelName : String
  snakeName : String
  constantName : String
  path : String
  database : String
  messaging : String
  auth : String
  crud : String
  operations : List String
  skipTests : Bool
  applyMigrations : Bool
  deriving DecidableEq, Repr

namespace Context

/-- The values that the options of a run give (`RenderContext.new`). -/
def ofOptions (o : Options) : Context where
  name := o.name
  className := o.names.classStyle
  dashName := o.names.dash
  camelName := o.names.camel
  snakeName := o.names.snake
  constantName := o.names.constant
  path := o.path
  database := o.database.text
  messaging := o.messaging.text
  auth := o.auth.text
  crud := o.crud.text
  operations := o.operations.map Operation.text
  skipTests := o.skipTests
  applyMigrations := o.applyMigrations

open Expression.Value in
/-- The values under the names that expressions use. -/
def scope (c : Context) : Expression.Scope :=
  [("name", text c.name), ("class_name", text c.className), ("dash_name", text c.dashName),
    ("camel_name", text c.camelName), ("snake_name", text c.snakeName),
    ("constant_name", text c.constantName), ("path", text c.path), ("database", text c.database),
    ("messaging", text c.messaging), ("auth", text c.auth), ("crud", text c.crud),
    ("operations", list false (c.operations.map text)), ("skip_tests", bool c.skipTests),
    ("apply_migrations", bool c.applyMigrations)]

/-- The names that expressions may use (`VARIABLES`). -/
def names : List String :=
  ["name", "class_name", "dash_name", "camel_name", "snake_name", "constant_name", "path",
    "database", "messaging", "auth", "crud", "operations", "skip_tests", "apply_migrations"]

theorem scope_map_fst (c : Context) : c.scope.map Prod.fst = names := rfl

end Context
end Stencil.Template
