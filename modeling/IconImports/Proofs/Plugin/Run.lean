import IconImports.Proofs.Plugin.Transform

/-!
# Runs of a plugin

A run makes calls on one plugin, in any order, and goes on after a transformation that fails. A
plugin is `Reachable` if some run of a new plugin leads to it.

`plugin_perform` says what one call can do to the plugin. It keeps the registry numbered
(`numbered_perform`) and only adds to it (`extends_perform`); so the registry of a reachable plugin
is numbered (`Reachable.numbered`), and a run only adds to it (`extends_run`).
-/

namespace IconImports

inductive Call
  | transform (source unit : String)
  | resolve (specifier : String)
  | load (name : String)
  deriving DecidableEq

/-- What a call is answered. -/
inductive Answer
  | transformed (result : Except RedirectError (Option String))
  | resolved (name : Option String)
  | loaded (text : Option String)

def Outcome.map {α β : Type} (f : α → β) (outcome : Outcome α) : Outcome β :=
  ⟨f outcome.answer, outcome.plugin, outcome.calls⟩

namespace Plugin

def perform (plugin : Plugin) : Call → Outcome Answer
  | .transform source unit => (plugin.transform source unit).map .transformed
  | .resolve specifier => (plugin.resolve specifier).map .resolved
  | .load name => (plugin.load name).map .loaded

def run (plugin : Plugin) : List Call → Outcome (List Answer)
  | [] => ⟨[], plugin, []⟩
  | call :: calls =>
    let first := plugin.perform call
    let others := first.plugin.run calls
    ⟨first.answer :: others.answer, others.plugin, first.calls ++ others.calls⟩

/-- The plugin is what a new one has become by some run. -/
inductive Reachable : Plugin → Prop
  | start (logger : Logger) : Reachable (start logger)
  | perform {plugin : Plugin} (call : Call) (h : Reachable plugin) :
    Reachable (plugin.perform call).plugin

variable {plugin : Plugin}

theorem Reachable.run (h : plugin.Reachable) (calls : List Call) :
    (plugin.run calls).plugin.Reachable := by
  induction calls generalizing plugin with
  | nil => exact h
  | cons call calls ih => exact ih (.perform call h)

theorem Reachable.transform (h : plugin.Reachable) (source unit : String) :
    (plugin.transform source unit).plugin.Reachable :=
  .perform (.transform source unit) h

/-! ### Asking changes nothing -/

@[simp]
theorem plugin_resolve (plugin : Plugin) (specifier : String) :
    (plugin.resolve specifier).plugin = plugin := by
  unfold resolve
  split
  · rfl
  · split <;> rfl

@[simp]
theorem plugin_load (plugin : Plugin) (name : String) : (plugin.load name).plugin = plugin := by
  unfold load
  split
  · rfl
  · split <;> rfl

/-! ### What a call does to the registry -/

/-- A transformation either leaves the plugin as it is or appends the entries of the source, for which
there is room. -/
theorem plugin_transform (hr : plugin.registry.Numbered) (source unit : String) :
    (plugin.transform source unit).plugin = plugin ∨
      ∃ entries, (scan source).mapM (·.entry unit) = .ok entries ∧
        plugin.registry.size + entries.length ≤ ModuleId.capacity ∧
        (plugin.transform source unit).plugin =
          ⟨plugin.registry.append entries, plugin.logger⟩ := by
  obtain ⟨-, h⟩ | ⟨e, -, -, h⟩ | ⟨entries, -, -, -, h⟩ | ⟨entries, -, hm, hle, h⟩ :=
    transform_cases hr source unit
  · left
    rw [h]
  · left
    rw [h]
  · left
    rw [h]
  · right
    refine ⟨entries, hm, hle, ?_⟩
    rw [h]

theorem plugin_transform_of_le (hr : plugin.registry.Numbered) {source unit : String}
    {entries : List Entry} (hm : (scan source).mapM (·.entry unit) = .ok entries)
    (hle : plugin.registry.size + entries.length ≤ ModuleId.capacity) :
    (plugin.transform source unit).plugin =
      ⟨plugin.registry.append entries, plugin.logger⟩ := by
  by_cases hf : scan source = []
  · obtain rfl : [] = entries := by simpa [hf, pure, Except.pure] using hm
    rw [transform_of_scan_eq_nil plugin hf]
    rfl
  · rw [transform_of_le_capacity hr hf hm hle]

theorem plugin_transform_of_eq_ok (hr : plugin.registry.Numbered) {source unit : String}
    {code : Option String} (h : (plugin.transform source unit).answer = .ok code) :
    ∃ entries, (scan source).mapM (·.entry unit) = .ok entries ∧
      plugin.registry.size + entries.length ≤ ModuleId.capacity ∧
      (plugin.transform source unit).plugin = ⟨plugin.registry.append entries, plugin.logger⟩ := by
  obtain ⟨hf, same⟩ | ⟨e, -, -, failed⟩ | ⟨entries, -, -, -, failed⟩ | ⟨entries, -, hm, hle, done⟩ :=
    transform_cases hr source unit
  · refine ⟨[], ?_, hr.size_le, ?_⟩
    · rw [hf]
      rfl
    · rw [same]
      rfl
  · rw [failed] at h
    cases h
  · rw [failed] at h
    cases h
  · exact ⟨entries, hm, hle, by rw [done]⟩

theorem plugin_perform (hr : plugin.registry.Numbered) (call : Call) :
    (plugin.perform call).plugin = plugin ∨
      ∃ source unit entries, call = .transform source unit ∧
        (scan source).mapM (·.entry unit) = .ok entries ∧
        plugin.registry.size + entries.length ≤ ModuleId.capacity ∧
        (plugin.perform call).plugin =
          ⟨plugin.registry.append entries, plugin.logger⟩ := by
  cases call with
  | transform source unit =>
    obtain h | ⟨entries, hm, hle, h⟩ := plugin_transform hr source unit
    · left
      exact h
    · right
      exact ⟨source, unit, entries, rfl, hm, hle, h⟩
  | resolve specifier =>
    left
    exact plugin_resolve plugin specifier
  | load name =>
    left
    exact plugin_load plugin name

theorem numbered_perform (hr : plugin.registry.Numbered) (call : Call) :
    (plugin.perform call).plugin.registry.Numbered := by
  obtain h | ⟨source, unit, entries, -, -, hle, h⟩ := plugin_perform hr call
  · rwa [h]
  · rw [h]
    exact hr.append hle

theorem numbered_transform (hr : plugin.registry.Numbered) (source unit : String) :
    (plugin.transform source unit).plugin.registry.Numbered :=
  numbered_perform hr (.transform source unit)

theorem extends_perform (hr : plugin.registry.Numbered) (call : Call) :
    plugin.registry.Extends (plugin.perform call).plugin.registry := by
  obtain h | ⟨source, unit, entries, -, -, hle, h⟩ := plugin_perform hr call
  · rw [h]
    exact .refl _
  · rw [h]
    exact hr.extends_append hle

/-! ### What a run does to the registry -/

theorem Reachable.numbered (h : plugin.Reachable) : plugin.registry.Numbered := by
  induction h with
  | start logger => exact Registry.numbered_empty
  | perform call _ ih => exact numbered_perform ih call

/-- Nothing that was registered is changed or removed in a run. -/
theorem extends_run (hr : plugin.registry.Numbered) (calls : List Call) :
    plugin.registry.Extends (plugin.run calls).plugin.registry := by
  induction calls generalizing plugin with
  | nil => exact .refl _
  | cons call calls ih => exact (extends_perform hr call).trans (ih (numbered_perform hr call))

theorem plugin_run_replicate (hr : plugin.registry.Numbered) {source unit : String} {entry : Entry}
    (hm : (scan source).mapM (·.entry unit) = .ok [entry]) {n : Nat}
    (hle : plugin.registry.size + n ≤ ModuleId.capacity) :
    (plugin.run (List.replicate n (.transform source unit))).plugin =
      ⟨plugin.registry.append (List.replicate n entry), plugin.logger⟩ := by
  induction n generalizing plugin with
  | zero => rfl
  | succ n ih =>
    have hlt : plugin.registry.size < ModuleId.capacity := by omega
    have first : (plugin.transform source unit).plugin =
        ⟨plugin.registry.push entry, plugin.logger⟩ :=
      plugin_transform_of_le hr hm hlt
    rw [List.replicate_succ, List.replicate_succ, Registry.append_cons]
    change ((plugin.transform source unit).plugin.run _).plugin = _
    rw [first]
    exact ih (hr.push hlt entry) (by rw [hr.size_push hlt]; omega)

end Plugin

end IconImports
