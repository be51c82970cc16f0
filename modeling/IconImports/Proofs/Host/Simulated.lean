import IconImports.Host
import IconImports.Proofs.Plugin.Failure
import IconImports.Proofs.Plugin.Told

/-!
# What a host gets to see

A host makes the calls that can be made on a plugin. Its replies are the answers of the plugin, with
every failure told in words (`perform_eq_map`), so a run for a host is a run of the plugin
(`run_eq_map`). The level in its configuration decides what goes to the console, and nothing else.

The main statement: `create_serves`.
-/

namespace IconImports

namespace Level

def names : List String := ["debug", "info", "warn", "warning", "error"]

variable {text : String}

theorem parse_of_mem_names (h : text.map Char.toLower ∈ names) : ∃ level, parse text = .ok level := by
  unfold parse
  simp only [names, List.mem_cons, List.not_mem_nil, or_false] at h
  rcases h with h | h | h | h | h <;> simp [h]

theorem parse_of_not_mem_names (h : text.map Char.toLower ∉ names) :
    parse text = .error ⟨text.map Char.toLower⟩ := by
  unfold parse
  simp only [names, List.mem_cons, List.not_mem_nil, or_false, not_or] at h
  simp [h]

theorem parse_eq_ok_debug_iff : parse text = .ok .debug ↔ text.map Char.toLower = "debug" := by
  constructor
  · intro h
    by_contra hne
    unfold parse at h
    simp only [hne, if_false] at h
    repeat' split at h
    all_goals cases h
  · intro h
    simp [parse, h]

end Level

namespace Host

/-! ### Replies -/

/-- What a host is replied to a call. -/
inductive Reply
  | transformed (result : Except Failure (Option String))
  | resolved (name : Option String)
  | loaded (text : Option String)

/-- The reply with the answer of a plugin: the cause of a failure is put into words. -/
def Reply.ofAnswer : Answer → Reply
  | .transformed result => transformed (result.mapError fun e => ⟨.genericFailure, e.message⟩)
  | .resolved name => resolved name
  | .loaded text => loaded text

def perform (plugin : Plugin) : Call → Outcome Reply
  | .transform source unit => (transform plugin source unit).map .transformed
  | .resolve specifier => (plugin.resolve specifier).map .resolved
  | .load name => (plugin.load name).map .loaded

def run (plugin : Plugin) : List Call → Outcome (List Reply)
  | [] => ⟨[], plugin, []⟩
  | call :: calls =>
    let first := perform plugin call
    let others := run first.plugin calls
    ⟨first.answer :: others.answer, others.plugin, first.calls ++ others.calls⟩

theorem perform_eq_map (plugin : Plugin) (call : Call) :
    perform plugin call = (plugin.perform call).map Reply.ofAnswer := by
  cases call <;> rfl

theorem run_eq_map (plugin : Plugin) (calls : List Call) :
    run plugin calls = (plugin.run calls).map (·.map Reply.ofAnswer) := by
  induction calls generalizing plugin with
  | nil => rfl
  | cons call calls ih =>
    rw [run, Plugin.run, perform_eq_map]
    simp only [Outcome.map, ih, List.map_cons]

/-! ### Creating a plugin -/

/-- The host disables the plugin in so many words. -/
def Disables (config : Option Config) : Prop := ∃ c ∈ config, c.enabled = some false

/-- The level for which the host asks. -/
def level? (config : Option Config) : Option String := config.bind Config.logLevel

variable {config : Option Config}

theorem enabled_eq_false_iff : (config.getD .unset).options.enabled = false ↔ Disables config := by
  unfold Disables
  cases config with
  | none => simp [Config.unset, Config.options, Options.default]
  | some c => cases h : c.enabled <;> simp [Config.options, Options.default, h]

theorem create_of_disables (h : Disables config) : create config = .ok none := by
  rw [create, enabled_eq_false_iff.2 h]
  rfl

theorem create_of_not_disables (h : ¬ Disables config) :
    create config = (config.getD .unset).logger.map fun logger => some (.start logger) := by
  rw [← enabled_eq_false_iff, Bool.not_eq_false] at h
  rw [create, h]
  rfl

theorem logLevel_getD_unset : (config.getD .unset).logLevel = level? config := by
  cases config <;> rfl

theorem logger_of_not_mem_names {text : String} (h : level? config = some text)
    (hn : text.map Char.toLower ∉ Level.names) :
    (config.getD .unset).logger =
      .error ⟨.invalidArg, "unknown log level `" ++ text.map Char.toLower ++ "`"⟩ := by
  rw [Config.logger, logLevel_getD_unset, h]
  simp only [Level.parse_of_not_mem_names hn]
  rfl

theorem exists_logger_eq_ok
    (h : ∀ text, level? config = some text → text.map Char.toLower ∈ Level.names) :
    ∃ logger, (config.getD .unset).logger = .ok logger ∧
      ∀ events, logger.written (logger.told events) =
        if (level? config).map (·.map Char.toLower) = some "debug" then
          String.join (events.map (Event.line pluginName))
        else "" := by
  rw [Config.logger, logLevel_getD_unset]
  cases hlevel : level? config with
  | none =>
    refine ⟨.silent, rfl, fun events => ?_⟩
    exact Logger.written_told_of_isEnabled_eq_false rfl events
  | some text =>
    obtain ⟨level, hparse⟩ := Level.parse_of_mem_names (h text hlevel)
    refine ⟨.console level pluginName, by simp only [hparse], fun events => ?_⟩
    simp only [Option.map_some, Option.some.injEq, ← Level.parse_eq_ok_debug_iff, hparse,
      Except.ok.injEq]
    split
    next debug =>
      rw [debug]
      exact Logger.written_told_console_debug pluginName events
    next other =>
      have disabled : (Logger.console level pluginName).isEnabled .debug = false :=
        Logger.isEnabled_debug_eq_false other
      exact Logger.written_told_of_isEnabled_eq_false disabled events

/-! ### Runs -/

/-- A run of the plugin that a host was given comes to what the same calls come to on a plugin with
default options. -/
structure Simulates (config : Option Config) (plugin : Plugin) (calls : List Call) : Prop where
  /-- The same is replied, with every failure told in words. -/
  replies : ∃ core, Plugin.ofOptions? .default .silent = some core ∧
    (run plugin calls).answer = (core.run calls).answer.map Reply.ofAnswer ∧
      (run plugin calls).plugin.registry = (core.run calls).plugin.registry
  /-- After any of the calls, a transformation that fails changes nothing. -/
  failing : ∀ source unit failure,
    (transform (run plugin calls).plugin source unit).answer = .error failure →
      failure.status = .genericFailure ∧
        (transform (run plugin calls).plugin source unit).plugin = (run plugin calls).plugin
  /-- At the level of debug messages, the console shows what a recorder is told. -/
  shown : (level? config).map (·.map Char.toLower) = some "debug" →
    plugin.logger.written (run plugin calls).calls =
      String.join (((Plugin.start (.recorder .debug)).run calls).calls.map fun call =>
        "[maic helper] debug: " ++ call.message ++ "\n")
  quiet : (level? config).map (·.map Char.toLower) ≠ some "debug" →
    plugin.logger.written (run plugin calls).calls = ""

theorem simulates_start {logger : Logger}
    (h : ∀ events, logger.written (logger.told events) =
      if (level? config).map (·.map Char.toLower) = some "debug" then
        String.join (events.map (Event.line pluginName))
      else "")
    (calls : List Call) : Simulates config (.start logger) calls := by
  obtain ⟨effect, heffect, -⟩ := Plugin.faithful_run Registry.numbered_empty calls
  have core_eq : ∀ logger, (Plugin.start logger).run calls = effect.outcome logger := heffect
  have run_eq : run (.start logger) calls =
      (effect.outcome logger).map (·.map Reply.ofAnswer) := by
    rw [run_eq_map, core_eq]
  constructor
  case replies =>
    refine ⟨.start .silent, rfl, ?_⟩
    rw [run_eq, core_eq]
    exact ⟨rfl, rfl⟩
  case failing =>
    intro source unit failure hfailure
    have numbered : (run (.start logger) calls).plugin.registry.Numbered := by
      rw [run_eq_map]
      exact ((Plugin.Reachable.start logger).run calls).numbered
    revert hfailure
    generalize (run (.start logger) calls).plugin = plugin at numbered ⊢
    intro hfailure
    simp only [transform] at hfailure ⊢
    cases hanswer : (plugin.transform source unit).answer with
    | ok code =>
      rw [hanswer] at hfailure
      cases hfailure
    | error e =>
      rw [hanswer] at hfailure
      obtain rfl := Except.error.inj hfailure
      refine ⟨rfl, Plugin.plugin_transform_of_isIdle numbered ?_⟩
      rw [hanswer]
      rfl
  case shown =>
    intro debug
    have told : ((Plugin.start (.recorder .debug)).run calls).calls =
        effect.events.map Event.call := by
      rw [core_eq]
      exact Logger.told_of_isEnabled rfl _
    rw [run_eq, told, List.map_map]
    exact (h effect.events).trans (if_pos debug)
  case quiet =>
    intro other
    rw [run_eq]
    exact (h effect.events).trans (if_neg other)

/-- What a host gets for a configuration. -/
structure Serves (config : Option Config) : Prop where
  nothing : create config = .ok none ↔ Disables config
  error : ∀ failure, create config = .error failure ↔ ¬ Disables config ∧
    ∃ text, level? config = some text ∧ text.map Char.toLower ∉ Level.names ∧
      failure = ⟨.invalidArg, "unknown log level `" ++ text.map Char.toLower ++ "`"⟩
  plugin : ¬ Disables config →
    (∀ text, level? config = some text → text.map Char.toLower ∈ Level.names) →
    ∃ plugin, create config = .ok (some plugin) ∧ ∀ calls, Simulates config plugin calls

/-- A host gets no plugin if it disables it, an error for a level that cannot be read, and otherwise a
plugin that does in every run what a plugin with default options does. -/
theorem create_serves (config : Option Config) : Serves config := by
  by_cases disables : Disables config
  · have created := create_of_disables disables
    refine { nothing := ⟨fun _ => disables, fun _ => created⟩, error := ?_, plugin := ?_ }
    · intro failure
      rw [created]
      exact ⟨nofun, fun h => absurd disables h.1⟩
    · exact fun h => absurd disables h
  · have created := create_of_not_disables disables
    by_cases readable : ∀ text, level? config = some text → text.map Char.toLower ∈ Level.names
    · obtain ⟨logger, hlogger, written⟩ := exists_logger_eq_ok readable
      rw [hlogger] at created
      refine { nothing := ?_, error := ?_, plugin := ?_ }
      · rw [created]
        exact ⟨nofun, fun h => absurd h disables⟩
      · intro failure
        rw [created]
        refine ⟨nofun, ?_⟩
        rintro ⟨-, text, hlevel, hn, -⟩
        exact absurd (readable text hlevel) hn
      · exact fun _ _ => ⟨.start logger, created, simulates_start written⟩
    · obtain ⟨text, hlevel, hn⟩ : ∃ text, level? config = some text ∧
          text.map Char.toLower ∉ Level.names := by
        simpa using readable
      rw [logger_of_not_mem_names hlevel hn] at created
      refine { nothing := ?_, error := ?_, plugin := fun _ h => absurd h readable }
      · rw [created]
        exact ⟨nofun, fun h => absurd h disables⟩
      · intro failure
        rw [created]
        constructor
        · intro h
          exact ⟨disables, text, hlevel, hn, (Except.error.inj h).symm⟩
        · rintro ⟨-, text', hlevel', -, rfl⟩
          obtain rfl := Option.some.inj (hlevel.symm.trans hlevel')
          rfl

end Host

end IconImports
