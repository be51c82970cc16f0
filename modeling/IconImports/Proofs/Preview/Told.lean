import IconImports.Proofs.Plugin.Told
import IconImports.Proofs.Preview.Emitted

/-!
# What a logger is told of a preview

A preview is put together from transformations, resolutions and loads, each of which looks at what was
answered before, but never at the logger. So it is `Faithful` as they are (`faithful_preview`): the
report does not depend on the logger (`answer_preview_eq`).
-/

namespace IconImports

namespace Plugin

variable {r : Registry}

theorem transformAll_cons_eq_andThen (plugin : Plugin) (unit source : String)
    (sources : List (String × String)) :
    plugin.transformAll ((unit, source) :: sources) =
      (plugin.transform source unit).andThen fun answer later =>
        match answer with
        | .error e => ⟨.error (.untransformed unit e), later, []⟩
        | .ok code => (later.transformAll sources).map (·.map (⟨unit, code⟩ :: ·)) := by
  rw [transformAll, Outcome.andThen]
  cases (plugin.transform source unit).answer with
  | error e => simp only [List.append_nil]
  | ok code => rfl

theorem faithful_transformAll (hr : r.Numbered) (sources : List (String × String)) :
    Faithful r fun plugin => plugin.transformAll sources := by
  induction sources generalizing r with
  | nil => exact .of_forall_eq_nil (.ok []) fun logger => rfl
  | cons p sources ih =>
    obtain ⟨unit, source⟩ := p
    simp only [transformAll_cons_eq_andThen]
    apply (faithful_transform hr source unit).andThen
    intro logger
    have numbered : (transform ⟨r, logger⟩ source unit).plugin.registry.Numbered :=
      numbered_transform hr source unit
    cases (transform ⟨r, logger⟩ source unit).answer with
    | error e => exact .of_forall_eq_nil _ fun logger => rfl
    | ok code => exact (ih numbered).map _

theorem emit_eq_andThen (plugin : Plugin) (specifier : String) :
    plugin.emit specifier =
      (plugin.resolve specifier).andThen fun answer later =>
        match answer with
        | none => ⟨.error (.unclaimed specifier), later, []⟩
        | some resolvedId => (later.load resolvedId).map fun source? =>
          match source? with
          | none => .error (.unloaded specifier)
          | some source => .ok ⟨specifier, resolvedId, source⟩ := by
  rw [emit, Outcome.andThen]
  cases (plugin.resolve specifier).answer with
  | none => simp only [List.append_nil]
  | some resolvedId =>
    dsimp only [Outcome.map]
    cases ((plugin.resolve specifier).plugin.load resolvedId).answer <;> rfl

theorem faithful_emit (r : Registry) (specifier : String) :
    Faithful r fun plugin => plugin.emit specifier := by
  simp only [emit_eq_andThen]
  apply (faithful_resolve r specifier).andThen
  intro logger
  cases (resolve ⟨r, logger⟩ specifier).answer with
  | none => exact .of_forall_eq_nil _ fun logger => rfl
  | some resolvedId => exact (faithful_load _ resolvedId).map _

theorem emitAll_cons_eq_andThen (plugin : Plugin) (specifier : String) (specifiers : List String) :
    plugin.emitAll (specifier :: specifiers) =
      (plugin.emit specifier).andThen fun answer later =>
        match answer with
        | .error e => ⟨.error e, later, []⟩
        | .ok module => (later.emitAll specifiers).map (·.map (module :: ·)) := by
  rw [emitAll, Outcome.andThen]
  cases (plugin.emit specifier).answer with
  | error e => simp only [List.append_nil]
  | ok module => rfl

theorem faithful_emitAll (r : Registry) (specifiers : List String) :
    Faithful r fun plugin => plugin.emitAll specifiers := by
  induction specifiers generalizing r with
  | nil => exact .of_forall_eq_nil (.ok []) fun logger => rfl
  | cons specifier specifiers ih =>
    simp only [emitAll_cons_eq_andThen]
    apply (faithful_emit r specifier).andThen
    intro logger
    cases (emit ⟨r, logger⟩ specifier).answer with
    | error e => exact .of_forall_eq_nil _ fun logger => rfl
    | ok module => exact (ih _).map _

/-- How a preview goes on after its sources, if `known` entries were there before them. -/
def finish (known : Nat) (emitModules : Bool) (answer : Except PreviewError (List FileReport))
    (later : Plugin) : Outcome (Except PreviewError Report) :=
  match answer with
  | .error e => ⟨.error e, later, []⟩
  | .ok files =>
    let specifiers := if emitModules then later.registry.specifiersFrom known else []
    (later.emitAll specifiers).map (·.map (⟨files, ·⟩))

theorem preview_eq_andThen (plugin : Plugin) (sources : List (String × String))
    (emitModules : Bool) :
    plugin.preview sources emitModules =
      (plugin.transformAll sources).andThen (finish plugin.registry.size emitModules) := by
  rw [preview, Outcome.andThen]
  cases (plugin.transformAll sources).answer with
  | error e => simp only [finish, List.append_nil]
  | ok files => rfl

theorem faithful_finish (r : Registry) (known : Nat) (emitModules : Bool)
    (answer : Except PreviewError (List FileReport)) :
    Faithful r (finish known emitModules answer) := by
  cases answer with
  | error e => exact .of_forall_eq_nil _ fun logger => rfl
  | ok files =>
    let specifiers := if emitModules then r.specifiersFrom known else []
    exact ((faithful_emitAll r specifiers).map (·.map (⟨files, ·⟩))).congr fun logger => rfl

theorem faithful_preview (hr : r.Numbered) (sources : List (String × String))
    (emitModules : Bool) : Faithful r fun plugin => plugin.preview sources emitModules := by
  have begun := faithful_transformAll hr sources
  have whole := begun.andThen fun logger => faithful_finish _ r.size emitModules _
  exact whole.congr fun logger => preview_eq_andThen ⟨r, logger⟩ sources emitModules

theorem faithful_previewFiles (hr : r.Numbered) (fs : FileSystem) (paths : List Path)
    (emitModules : Bool) : Faithful r fun plugin => plugin.previewFiles fs paths emitModules := by
  unfold previewFiles
  cases fs.readAll paths with
  | error e => exact .of_forall_eq_nil (.error e) fun logger => rfl
  | ok sources => exact faithful_preview hr sources emitModules

end Plugin

end IconImports
