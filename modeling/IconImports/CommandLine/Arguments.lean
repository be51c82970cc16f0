import IconImports.Log
import IconImports.Text.Terminal

/-!
# Arguments of the command line

`Request.parse` reads arguments from left to right. An option whose value is an argument of its own
stays pending until the next option or pattern has been recognised, or the arguments end; only then
is its value looked at. So an argument that is not recognised at all is reported before a bad value
that stands in front of it.
-/

namespace IconImports

open Terminal (Stretch visibleText)

namespace CommandLine

structure Arguments where
  /-- The path of a file with options. -/
  config : Option String
  logLevel : Option Level
  verbose : Bool
  emitModules : Bool
  json : Bool
  /-- Paths and glob patterns, of which there is at least one. -/
  patterns : List String
  deriving DecidableEq

inductive Request
  | help
  | version
  | preview (arguments : Arguments)
  deriving DecidableEq

inductive Setting
  | config
  | logLevel
  deriving DecidableEq

def Setting.usage : Setting → String
  | config => "--config <FILE>"
  | logLevel => "--log-level <LEVEL>"

inductive Switch
  | verbose
  | emitModules
  | json
  | help
  | version
  deriving DecidableEq

def Switch.usage : Switch → String
  | verbose => "--verbose"
  | emitModules => "--emit-modules"
  | json => "--json"
  | help => "--help"
  | version => "--version"

inductive Flag
  | setting (setting : Setting)
  | switch (switch : Switch)
  deriving DecidableEq

def Flag.usage : Flag → String
  | setting s => s.usage
  | switch s => s.usage

def longNames : List (String × Flag) :=
  [("config", .setting .config), ("log-level", .setting .logLevel), ("verbose", .switch .verbose),
    ("emit-modules", .switch .emitModules), ("json", .switch .json), ("help", .switch .help),
    ("version", .switch .version)]

def shortNames : List (Char × Flag) :=
  [('c', .setting .config), ('v', .switch .verbose), ('m', .switch .emitModules),
    ('h', .switch .help), ('V', .switch .version)]

inductive UsageError
  | unexpectedArgument (argument : String)
  | unexpectedValue (value : String) (switch : Switch)
  | repeated (flag : Flag)
  | missingValue (setting : Setting)
  | unknownLevel (text : String) (cause : Level.Unknown)
  | missingPatterns
  deriving DecidableEq

/-- The wording of an error; what was given, and what it was given to, stands out. -/
def UsageError.stretches : UsageError → List Stretch
  | unexpectedArgument argument =>
    [.plain "unexpected argument '", .marked argument, .plain "' found"]
  | unexpectedValue value switch =>
    [.plain "unexpected value '", .marked value, .plain "' for '", .marked switch.usage,
      .plain "' found; no more were expected"]
  | repeated flag =>
    [.plain "the argument '", .marked flag.usage, .plain "' cannot be used multiple times"]
  | missingValue setting =>
    [.plain "a value is required for '", .marked setting.usage,
      .plain "' but none was supplied"]
  | unknownLevel text cause =>
    [.plain "invalid value '", .marked text, .plain "' for '", .marked Setting.logLevel.usage,
      .plain s!"': {cause.message}"]
  | missingPatterns => [.plain "the following required arguments were not provided:"]

/-- The text that is written for an error: its wording, and where to find help. -/
def UsageError.report (e : UsageError) : String :=
  visibleText ([.marked "error:", .plain " "] ++ e.stretches ++
    [.plain "\n\nFor more information, try '", .marked "--help", .plain "'.\n"])

inductive Halt
  | error (cause : UsageError)
  | help
  | version
  deriving DecidableEq

/-- An option whose value is still to be looked at, or even to come. -/
structure Pending where
  setting : Setting
  value : Option String
  deriving DecidableEq

structure State where
  arguments : Arguments
  pending : Option Pending
  deriving DecidableEq

namespace State

def start : State := ⟨⟨none, none, false, false, false, []⟩, none⟩

def set (state : State) (setting : Setting) (value : String) : Except Halt State :=
  match setting with
  | .config =>
    if state.arguments.config.isSome then .error (.error (.repeated (.setting .config)))
    else .ok { state with arguments.config := some value }
  | .logLevel =>
    if state.arguments.logLevel.isSome then .error (.error (.repeated (.setting .logLevel)))
    else
      match Level.parse value with
      | .error e => .error (.error (.unknownLevel value e))
      | .ok level => .ok { state with arguments.logLevel := some level }

def settle (state : State) : Except Halt State :=
  match state.pending with
  | none => .ok state
  | some ⟨setting, none⟩ => .error (.error (.missingValue setting))
  | some ⟨setting, some value⟩ => set { state with pending := none } setting value

/-- Takes up a switch. Each may be given only once; help and version are given at once. -/
def turnOn (state : State) (switch : Switch) : Except Halt State := do
  let state ← state.settle
  let repeated := throw (.error (.repeated (.switch switch)))
  match switch with
  | .verbose =>
    if state.arguments.verbose then repeated
    else return { state with arguments.verbose := true }
  | .emitModules =>
    if state.arguments.emitModules then repeated
    else return { state with arguments.emitModules := true }
  | .json =>
    if state.arguments.json then repeated
    else return { state with arguments.json := true }
  | .help => throw .help
  | .version => throw .version

/-- Takes up an option with the value that is attached to it, or waits for its value. -/
def beginSetting (state : State) (setting : Setting) (attached : Option String) :
    Except Halt State := do
  let state ← state.settle
  match attached with
  | some value => state.set setting value
  | none => return { state with pending := some ⟨setting, none⟩ }

def addPattern (state : State) (pattern : String) : Except Halt State := do
  let state ← state.settle
  return { state with arguments.patterns := state.arguments.patterns ++ [pattern] }

def readLong (state : State) (text : List Char) : Except Halt State :=
  let name := String.ofList (text.takeWhile (· ≠ '='))
  let attached :=
    match text.dropWhile (· ≠ '=') with
    | [] => none
    | _ :: value => some (String.ofList value)
  match longNames.lookup name with
  | none => .error (.error (.unexpectedArgument ("--" ++ name)))
  | some (.setting setting) => state.beginSetting setting attached
  | some (.switch switch) =>
    match attached with
    | some value => .error (.error (.unexpectedValue value switch))
    | none => state.turnOn switch

/-- Reads letters of options: what follows a single dash. All that follows the letter of an option
with a value, except for an equals sign, is its value. -/
def readShort (state : State) : List Char → Except Halt State
  | [] => .ok state
  | c :: letters =>
    match shortNames.lookup c with
    | none => .error (.error (.unexpectedArgument (String.ofList ['-', c])))
    | some (.switch switch) => do
      let state ← state.turnOn switch
      state.readShort letters
    | some (.setting setting) =>
      match letters with
      | [] => state.beginSetting setting none
      | '=' :: value => state.beginSetting setting (some (String.ofList value))
      | value => state.beginSetting setting (some (String.ofList value))

/-- Reads an argument that is not an option: the value of the option before it, or a pattern. -/
def readPlain (state : State) (argument : String) : Except Halt State :=
  match state.pending with
  | some ⟨setting, none⟩ => .ok { state with pending := some ⟨setting, some argument⟩ }
  | _ => state.addPattern argument

/-- Reads all arguments. After two dashes alone there are only patterns. -/
def read (state : State) : List String → Except Halt State
  | [] => state.settle
  | argument :: arguments =>
    match argument.toList with
    | ['-', '-'] => do
      let state ← arguments.foldlM addPattern state
      state.settle
    | '-' :: '-' :: text => do
      let state ← state.readLong text
      state.read arguments
    | '-' :: c :: letters => do
      let state ← state.readShort (c :: letters)
      state.read arguments
    | _ => do
      let state ← state.readPlain argument
      state.read arguments

end State

def Request.parse (arguments : List String) : Except UsageError Request :=
  match State.start.read arguments with
  | .error (.error cause) => .error cause
  | .error .help => .ok .help
  | .error .version => .ok .version
  | .ok state =>
    if state.arguments.patterns = [] then .error .missingPatterns
    else .ok (.preview state.arguments)

end CommandLine

end IconImports
