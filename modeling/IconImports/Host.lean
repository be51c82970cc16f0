import IconImports.Options
import IconImports.Plugin

/-!
# The plugin as a host sees it

A host passes a `Host.Config`, in which everything may be left open, and gets a plugin, or none if
the plugin is disabled. A level that cannot be read is an error, but only if the plugin is enabled.
What goes wrong reaches a host as a `Host.Failure`: a status and the cause in words.
-/

namespace IconImports

def Plugin.ofOptions? (options : Options) (logger : Logger) : Option Plugin :=
  if options.enabled then some (start logger) else none

namespace Host

inductive Status
  | invalidArg
  | genericFailure
  deriving DecidableEq

structure Failure where
  status : Status
  message : String
  deriving DecidableEq

structure Config where
  enabled : Option Bool
  /-- The level from which on messages go to the console; without one nothing is logged. -/
  logLevel : Option String
  deriving DecidableEq

def Config.unset : Config := ⟨none, none⟩

def Config.options (config : Config) : Options :=
  ⟨config.enabled.getD Options.default.enabled⟩

def Config.logger (config : Config) : Except Failure Logger :=
  match config.logLevel with
  | none => .ok .silent
  | some text =>
    match Level.parse text with
    | .error e => .error ⟨.invalidArg, e.message⟩
    | .ok level => .ok (.console level pluginName)

/-- The plugin for a configuration. The options are looked at before the level. -/
def create (config : Option Config) : Except Failure (Option Plugin) :=
  let config := config.getD .unset
  if config.options.enabled then config.logger.map fun logger => some (.start logger)
  else .ok none

def transform (plugin : Plugin) (source unit : String) : Outcome (Except Failure (Option String)) :=
  let outcome := plugin.transform source unit
  ⟨outcome.answer.mapError fun e => ⟨.genericFailure, e.message⟩, outcome.plugin, outcome.calls⟩

end Host

end IconImports
