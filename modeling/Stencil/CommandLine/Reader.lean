import Stencil.CommandLine.Arguments

/-!
# Reading a command line

The parts of a command line are read from left to right. A part behind two dashes is the long name
of a parameter, perhaps with a value behind an equals sign; one behind a single dash is a row of
short names, the last of them perhaps with a value. Two dashes alone end all names. Other parts are
the value that a setting waits for, or else the schematic and the name of the module.

A value is settled when the next parameter or place is read, so an unknown name is reported before
what is wrong with the setting in front of it. Command lines are read as by `clap` 4.5; its texts
about help and usage are left out.
-/
namespace Stencil.CommandLine

/-- Why a command line is not carried out. -/
inductive UsageError
  | unknown (argument : String)
  | noSchematic
  /-- A setting without a value, or a directory with an empty one. -/
  | noValue (setting : Setting)
  | repeated (parameter : Parameter)
  /-- A value for a parameter that takes none. -/
  | unwantedValue (argument : String)
  | help
  | version
  deriving DecidableEq, Repr

def UsageError.message : UsageError → String
  | .unknown argument => "unexpected argument '" ++ argument ++ "'"
  | .noSchematic => "a schematic is required"
  | .noValue setting => "a value is required for '--" ++ setting.name ++ "'"
  | .repeated _ => "an argument cannot be used multiple times"
  | .unwantedValue argument => "unexpected value for '" ++ argument ++ "'"
  | .help => "Usage: stencil [OPTIONS] <SCHEMATIC> [NAME]"
  | .version => "stencil 0.3.0"

/-- The exit code of a program that does not carry out its command line. -/
def UsageError.exitCode : UsageError → Nat
  | .help | .version => 0
  | .noSchematic => 1
  | _ => 2

/-- What has been read of a command line. -/
structure Progress where
  /-- The parts that are no parameters. -/
  places : List String
  values : List (Setting × String)
  toggles : List Toggle
  /-- A setting that is not settled, with its value if that was read. -/
  pending : Option (Setting × Option String)

namespace Progress

def start : Progress := ⟨[], [], [], none⟩

def record (p : Progress) (s : Setting) (value : String) : Except UsageError Progress :=
  if (p.values.lookup s).isSome then .error (.repeated (.setting s))
  else if s.isDirectory && value == "" then .error (.noValue s)
  else .ok { p with values := p.values ++ [(s, value)] }

def settle (p : Progress) : Except UsageError Progress :=
  match p.pending with
  | none => .ok p
  | some (s, none) => .error (.noValue s)
  | some (s, some value) => { p with pending := none }.record s value

/-- Reads a setting with its value. -/
def give (p : Progress) (s : Setting) (value : String) : Except UsageError Progress := do
  (← p.settle).record s value

/-- Reads a setting whose value is to come. -/
def await (p : Progress) (s : Setting) : Except UsageError Progress := do
  pure { ← p.settle with pending := some (s, none) }

/-- Reads a toggle. -/
def turn (p : Progress) (t : Toggle) : Except UsageError Progress := do
  let p ← p.settle
  if p.toggles.contains t then .error (.repeated (.toggle t))
  else .ok { p with toggles := p.toggles ++ [t] }

def stop (p : Progress) (e : UsageError) : Except UsageError Progress := do
  discard p.settle
  .error e

/-- Reads a part that is no parameter. -/
def place (p : Progress) (text : String) : Except UsageError Progress :=
  if p.places.length < 2 then do
    let p ← p.settle
    pure { p with places := p.places ++ [text] }
  else .error (.unknown text)

/-- Reads a long name, with what stands behind its equals sign. -/
def long (p : Progress) (name : String) (value : Option String) : Except UsageError Progress :=
  match Parameter.ofLong name, value with
  | none, _ => .error (.unknown ("--" ++ name))
  | some (.setting s), some value => p.give s value
  | some (.setting s), none => p.await s
  | some _, some _ => .error (.unwantedValue ("--" ++ name))
  | some (.toggle t), none => p.turn t
  | some .help, none => p.stop .help
  | some .version, none => p.stop .version

/-- The value behind a short name, less an equals sign. -/
def attached : List Char → String
  | '=' :: value => String.ofList value
  | value => String.ofList value

/-- Reads a row of short names. -/
def short (p : Progress) : List Char → Except UsageError Progress
  | [] => .ok p
  | c :: rest =>
    match Parameter.ofShort c with
    | none => .error (.unknown (String.ofList ['-', c]))
    | some (.setting s) => if rest.isEmpty then p.await s else p.give s (attached rest)
    | some (.toggle t) => do (← p.turn t).short rest
    | some .help => p.stop .help
    | some .version => p.stop .version

/-- Reads a part that is no name behind dashes. -/
def plain (p : Progress) (text : String) : Except UsageError Progress :=
  match p.pending with
  | some (s, none) => .ok { p with pending := some (s, some text) }
  | _ => p.place text

def part (p : Progress) (text : String) : Except UsageError Progress :=
  match text.toList with
  | '-' :: '-' :: name =>
    let value := name.dropWhile (· ≠ '=')
    p.long (String.ofList (name.takeWhile (· ≠ '=')))
      (if value.isEmpty then none else some (String.ofList value.tail))
  | '-' :: c :: names => p.short (c :: names)
  | _ => p.plain text

/-- Reads the parts behind two dashes alone. -/
def placeAll (p : Progress) : List String → Except UsageError Progress
  | [] => .ok p
  | text :: rest => do (← p.place text).placeAll rest

def parts (p : Progress) : List String → Except UsageError Progress
  | [] => .ok p
  | text :: rest =>
    if text = "--" then p.placeAll rest
    else do (← p.part text).parts rest

def finish (p : Progress) : Except UsageError Arguments := do
  let p ← p.settle
  match p.places with
  | [] => .error .noSchematic
  | schematic :: rest =>
    pure
      { schematic
        name := rest.head?
        database := p.values.lookup .database
        messaging := p.values.lookup .messaging
        auth := p.values.lookup .auth
        crud := p.values.lookup .crud
        operations := p.values.lookup .operations
        path := p.values.lookup .path
        flags := p.toggles.filterMap fun
          | .flag f => some f
          | _ => none
        verbose := p.toggles.contains .verbose
        stdin := p.toggles.contains .stdin
        templates := p.values.lookup .templates
        workspace := (p.values.lookup .workspace).getD "." }

end Progress

def Arguments.read (args : List String) : Except UsageError Arguments := do
  (← Progress.start.parts args).finish

end Stencil.CommandLine
