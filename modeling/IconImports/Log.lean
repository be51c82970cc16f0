/-!
# Logging

A `Logger` decides what becomes of messages. A silent one drops them, a console writes those at
its threshold or above as lines of text, and a recorder keeps every call as it was made, whatever
its level. Nothing is written here: `Logger.written` is the text that a console would write.
-/

namespace IconImports

inductive Level
  | debug
  | info
  | warn
  | error
  deriving DecidableEq

namespace Level

def rank : Level → Nat
  | debug => 0
  | info => 1
  | warn => 2
  | error => 3

instance : Ord Level := ⟨fun a b => compare a.rank b.rank⟩

instance : LE Level := ⟨fun a b => a.rank ≤ b.rank⟩

instance (a b : Level) : Decidable (a ≤ b) := inferInstanceAs (Decidable (a.rank ≤ b.rank))

def all : List Level := [debug, info, warn, error]

def name : Level → String
  | debug => "debug"
  | info => "info"
  | warn => "warn"
  | error => "error"

structure Unknown where
  text : String
  deriving DecidableEq

def Unknown.message (e : Unknown) : String := s!"unknown log level `{e.text}`"

/-- Reads the name of a level. The case of ASCII letters does not matter, and `warning` is another
name of `warn`. -/
def parse (text : String) : Except Unknown Level :=
  let lower := text.map Char.toLower
  if lower = "debug" then .ok debug
  else if lower = "info" then .ok info
  else if lower = "warn" ∨ lower = "warning" then .ok warn
  else if lower = "error" then .ok error
  else .error ⟨lower⟩

end Level

structure LogCall where
  level : Level
  message : String
  deriving DecidableEq

/-- What becomes of messages. -/
inductive Logger
  | silent
  /-- Writes lines that open with `label` in brackets. -/
  | console (threshold : Level) (label : String)
  | recorder (threshold : Level)
  deriving DecidableEq

namespace Logger

def threshold : Logger → Level
  | silent => .error
  | console threshold _ => threshold
  | recorder threshold => threshold

def isEnabled (logger : Logger) (level : Level) : Bool := logger.threshold ≤ level

/-- The text that the logger writes for one call: a line on a console that wants the message, and
otherwise nothing. -/
def line (logger : Logger) (call : LogCall) : String :=
  match logger with
  | console _ label =>
    if logger.isEnabled call.level then s!"[{label}] {call.level.name}: {call.message}\n" else ""
  | _ => ""

def written (logger : Logger) (calls : List LogCall) : String :=
  String.join (calls.map logger.line)

end Logger

end IconImports
