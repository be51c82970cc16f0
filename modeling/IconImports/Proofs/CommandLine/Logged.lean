import IconImports.CommandLine.Run
import IconImports.Glob
import IconImports.Proofs.Preview.Told

/-!
# What the options for logging change

Whatever the options for logging are, a preview comes to the same `Result`, with the same events
told before it (`logsBefore_preview`). The options only decide whether these events are written, each
as a line, before all else that goes to the errors. All of them are debug messages, so a level above
these has the same effect as none.

The main statement: `run_agree`.
-/

namespace IconImports

namespace CommandLine

variable {fs : FileSystem} {arguments : Arguments}

/-! ### Options for logging -/

/-- The arguments with these options for logging in the place of their own. -/
def Arguments.withLogging (arguments : Arguments) (verbose : Bool) (logLevel : Option Level) :
    Arguments :=
  { arguments with verbose, logLevel }

/-- The arguments differ at most in their options for logging. -/
def Arguments.Alike (a b : Arguments) : Prop := b = a.withLogging b.verbose b.logLevel

/-- The arguments ask for debug messages. A level does not matter to the switch. -/
def Arguments.Debugs (arguments : Arguments) : Prop :=
  arguments.verbose = true ∨ arguments.logLevel = some .debug

instance (arguments : Arguments) : Decidable arguments.Debugs :=
  inferInstanceAs (Decidable (_ ∨ _))

theorem Arguments.level_eq_some_debug_iff : arguments.level = some .debug ↔ arguments.Debugs := by
  unfold level Debugs
  cases arguments.verbose <;> simp

theorem written_told_of_debugs (h : arguments.Debugs) (events : List Event) :
    arguments.logger.written (arguments.logger.told events) =
      String.join (events.map (Event.line pluginName)) := by
  have logger : arguments.logger = .console .debug pluginName := by
    rw [Arguments.logger, Arguments.level_eq_some_debug_iff.2 h]
  rw [logger, Logger.written_told_console_debug]

theorem written_told_of_not_debugs (h : ¬ arguments.Debugs) (events : List Event) :
    arguments.logger.written (arguments.logger.told events) = "" := by
  apply Logger.written_told_of_isEnabled_eq_false
  apply Logger.isEnabled_debug_eq_false
  rw [← Arguments.level_eq_some_debug_iff] at h
  unfold Arguments.logger
  cases hlevel : arguments.level with
  | none => nofun
  | some level =>
    intro debug
    obtain rfl : level = .debug := debug
    exact h hlevel

/-! ### Previews -/

/-- The result, with a text written to the errors before it. -/
def Result.after (text : String) (result : Result) : Result :=
  { result with errors := text ++ result.errors }

theorem Result.after_empty (result : Result) : result.after "" = result := by
  rw [after, String.empty_append]

theorem failure_eq_after (errors message : String) :
    failure errors message = (failure "" message).after errors := by
  simp only [failure, Result.after, String.empty_append, String.append_assoc]

theorem success_eq_after (output errors : String) :
    success output errors = (success output "").after errors := by
  simp only [success, Result.after, String.append_empty]

/-- What a computation leads to with some options for logging is the result, after the events that
the logger of these options was told of. -/
def LogsBefore (arguments : Arguments) (compute : Arguments → Result) : Prop :=
  ∃ (result : Result) (events : List Event), ∀ verbose logLevel,
    let given := arguments.withLogging verbose logLevel
    compute given = result.after (given.logger.written (given.logger.told events))

theorem LogsBefore.of_forall_eq {compute : Arguments → Result} (result : Result)
    (h : ∀ verbose logLevel, compute (arguments.withLogging verbose logLevel) = result) :
    LogsBefore arguments compute := by
  refine ⟨result, [], fun verbose logLevel => ?_⟩
  exact (h verbose logLevel).trans result.after_empty.symm

theorem logsBefore_previewPatterns (fs : FileSystem) (arguments : Arguments) :
    LogsBefore arguments fun given => previewPatterns fs given (.start given.logger) := by
  have patterns : ∀ verbose logLevel,
    (arguments.withLogging verbose logLevel).patterns = arguments.patterns := fun _ _ => rfl
  unfold previewPatterns
  cases hpaths : fs.expandPatterns arguments.patterns with
  | error e =>
    apply LogsBefore.of_forall_eq (failure "" e.report)
    intro verbose logLevel
    simp only [patterns, hpaths]
  | ok paths =>
    cases paths with
    | nil =>
      apply LogsBefore.of_forall_eq
        (failure "" ("No files matched " ++ ", ".intercalate arguments.patterns))
      intro verbose logLevel
      simp only [patterns, hpaths]
    | cons path paths =>
      obtain ⟨effect, heffect, -⟩ := Plugin.faithful_previewFiles Registry.numbered_empty fs
        (path :: paths) arguments.emitModules
      have outcome : ∀ verbose logLevel,
          let given := arguments.withLogging verbose logLevel
          (Plugin.start given.logger).previewFiles fs (path :: paths) given.emitModules =
            effect.outcome given.logger :=
        fun verbose logLevel => heffect _
      cases hanswer : effect.answer with
      | error e =>
        refine ⟨failure "" e.message, effect.events, fun verbose logLevel => ?_⟩
        simp only [patterns, hpaths, outcome, Effect.outcome, hanswer]
        exact failure_eq_after _ _
      | ok report =>
        refine ⟨success (arguments.format report) "", effect.events, fun verbose logLevel => ?_⟩
        simp only [patterns, hpaths, outcome, Effect.outcome, hanswer]
        exact success_eq_after _ _

theorem logsBefore_preview (fs : FileSystem) (arguments : Arguments) :
    LogsBefore arguments (preview fs) := by
  have options : ∀ verbose logLevel,
    (arguments.withLogging verbose logLevel).options fs = arguments.options fs := fun _ _ => rfl
  unfold preview
  cases hoptions : arguments.options fs with
  | error e =>
    let path := arguments.config.getD ""
    apply LogsBefore.of_forall_eq (failure "" s!"Failed to load config {path}: {e.message}")
    intro verbose logLevel
    simp only [options, hoptions]
    rfl
  | ok found =>
    obtain ⟨enabled⟩ := found
    cases enabled with
    | false =>
      apply LogsBefore.of_forall_eq
        (success "" (pluginName ++ " is disabled by configuration; nothing to do.\n"))
      intro verbose logLevel
      simp only [options, hoptions]
      rfl
    | true =>
      obtain ⟨result, events, h⟩ := logsBefore_previewPatterns fs arguments
      refine ⟨result, events, fun verbose logLevel => ?_⟩
      simp only [options, hoptions]
      exact h verbose logLevel

/-! ### Runs -/

/-- What two runs have in common whose arguments differ at most in their options for logging. -/
structure Agree (a b : Arguments) (first second : Result) : Prop where
  exitCode : first.exitCode = second.exitCode
  output : first.output = second.output
  /-- Debug messages come before all else that is written. -/
  errors : ¬ a.Debugs → b.Debugs → ∃ events : List Event,
    second.errors = String.join (events.map (Event.line pluginName)) ++ first.errors
  /-- With the switch, a level does not matter, and a level above debug messages is like none. -/
  same : (a.Debugs ↔ b.Debugs) → first = second

theorem preview_agree {a b : Arguments} (alike : a.Alike b) (fs : FileSystem) :
    Agree a b (preview fs a) (preview fs b) := by
  obtain ⟨result, events, h⟩ := logsBefore_preview fs a
  have first : preview fs a = result.after (a.logger.written (a.logger.told events)) :=
    h a.verbose a.logLevel
  have second : preview fs b = result.after (b.logger.written (b.logger.told events)) := by
    rw [alike]
    exact h b.verbose b.logLevel
  rw [first, second]
  constructor
  case exitCode => rfl
  case output => rfl
  case errors =>
    intro quiet debugs
    rw [written_told_of_not_debugs quiet, written_told_of_debugs debugs, Result.after_empty]
    exact ⟨events, rfl⟩
  case same =>
    intro hiff
    by_cases debugs : a.Debugs
    · rw [written_told_of_debugs debugs, written_told_of_debugs (hiff.1 debugs)]
    · rw [written_told_of_not_debugs debugs, written_told_of_not_debugs (mt hiff.2 debugs)]

/-- Options for logging do not change what a run reports, and only add debug messages to what it
says beside the report. -/
theorem run_agree {a b : Arguments} {words words' : List String}
    (h : Request.parse words = .ok (.preview a)) (h' : Request.parse words' = .ok (.preview b))
    (alike : a.Alike b) (fs : FileSystem) : Agree a b (run fs words) (run fs words') := by
  have first : run fs words = preview fs a := by rw [run, h]
  have second : run fs words' = preview fs b := by rw [run, h']
  rw [first, second]
  exact preview_agree alike fs

/-- The first file is redirected, of which only one of the runs tells; both fail at the second. -/
theorem run_agree_of_invalid_import :
    let home : FileTree.Node := .directory .full [("a.js", .file (.text "import { b } from 'maic'"))]
    let srv : FileTree.Node := .directory .full [("c.js", .file (.text "import { + } from 'maic'"))]
    let tree : FileTree := ⟨.full, [("home", home), ("srv", srv)], ["home"]⟩
    let words := ["--log-level=WARN", "-m", "a.js", "/srv/*.js"]
    let words' := ["-mv", "a.js", "--log-level", "error", "/srv/*.js"]
    let a : Arguments := ⟨none, some .warn, false, true, false, ["a.js", "/srv/*.js"]⟩
    let b : Arguments := ⟨none, some .error, true, true, false, ["a.js", "/srv/*.js"]⟩
    Request.parse words = .ok (.preview a) ∧ Request.parse words' = .ok (.preview b) ∧
      a.Alike b ∧ ¬ a.Debugs ∧ b.Debugs ∧
      Agree a b (run tree.fileSystem words) (run tree.fileSystem words') := by
  intro home srv tree words words' a b
  have asks : Request.parse words = .ok (.preview a) := by decide +kernel
  have asks' : Request.parse words' = .ok (.preview b) := by decide +kernel
  have alike : a.Alike b := rfl
  exact ⟨asks, asks', alike, by decide, by decide, run_agree asks asks' alike tree.fileSystem⟩

end CommandLine

end IconImports
