import Stencil.Options.Normalized

/-!
# Conditions

A condition says for which options a template belongs to the output. It compares an option with
values, or asks for a switch or an operation. `validated` brings the compared values to their plain
spelling and refuses conditions that can never be meant.
-/
namespace Stencil

/-- An option that conditions can compare. -/
inductive OptionKey
  | database | messaging | auth | crud
  deriving DecidableEq, Repr

def OptionKey.text : OptionKey → String
  | .database => "database" | .messaging => "messaging" | .auth => "auth" | .crud => "crud"

def OptionKey.all : List OptionKey := [.database, .messaging, .auth, .crud]

/-- The spelling of the option's value (`OptionKey.current`). -/
def OptionKey.current (key : OptionKey) (o : Options) : String :=
  match key with
  | .database => o.database.text
  | .messaging => o.messaging.text
  | .auth => o.auth.text
  | .crud => o.crud.text

/-- Fails for a text that is no value of the option (`OptionKey.check`). -/
def OptionKey.check (key : OptionKey) (value : String) : Except Failure Unit :=
  match key with
  | .database => (Choice.parse value : Except Failure Database).map fun _ => ()
  | .messaging => (Choice.parse value : Except Failure Messaging).map fun _ => ()
  | .auth => (Choice.parse value : Except Failure Auth).map fun _ => ()
  | .crud => (Choice.parse value : Except Failure Crud).map fun _ => ()

/-- A predicate on options. -/
inductive Condition
  | equals (option : OptionKey) (value : String)
  | notEquals (option : OptionKey) (value : String)
  | anyOf (option : OptionKey) (values : List String)
  | flag (flag : Flag)
  | notFlag (flag : Flag)
  | operation (operation : Operation)
  deriving DecidableEq, Repr

namespace Condition

/-- Whether the condition holds (`Condition.evaluate`). -/
def evaluate (condition : Condition) (o : Options) : Bool :=
  match condition with
  | equals key value => key.current o == value
  | notEquals key value => key.current o != value
  | anyOf key values => values.contains (key.current o)
  | flag f => o.flag f
  | notFlag f => !o.flag f
  | operation op => o.hasOperation op

/-- The plain spelling of a value of the option. -/
def canonicalValue (key : OptionKey) (value : String) : Except Failure String := do
  key.check value
  pure (plainWord value)

/-- The condition with its values in plain spelling (`Condition.validated`). Values that the option
can never have are refused, and so are switches of the run mode: a preview and a commit select the
same files. -/
def validated : Condition → Except Failure Condition
  | equals key value => do pure (equals key (← canonicalValue key value))
  | notEquals key value => do pure (notEquals key (← canonicalValue key value))
  | anyOf key values => do pure (anyOf key (← values.mapM (canonicalValue key)))
  | flag f =>
    if f.isRunMode then .error (.invalidOptions "flag" (.runModeSwitch f.text)) else .ok (flag f)
  | notFlag f =>
    if f.isRunMode then .error (.invalidOptions "flag" (.runModeSwitch f.text))
    else .ok (notFlag f)
  | operation op => .ok (operation op)

/-- Whether all conditions hold (`all_hold`); none always hold. -/
def allHold (conditions : List Condition) (o : Options) : Bool :=
  conditions.all fun c => c.evaluate o

end Condition
end Stencil
