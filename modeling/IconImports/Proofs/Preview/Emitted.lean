import IconImports.Preview
import IconImports.Proofs.Plugin.Serve

/-!
# The modules of a preview

The name by which a redirected statement imports an entry is claimed, and what is served under it is
the module of the entry (`emit_specifier`). So once all sources have been transformed, a preview
cannot fail any more (`preview_cases`), and asking for modules changes nothing but the modules that
are shown.
-/

namespace IconImports

/-- What a preview shows of the module of an entry. -/
def Entry.module (entry : Entry) (id : ModuleId) : ModuleReport :=
  ⟨entry.specifier id, virtualName (entry.specifier id), entry.moduleSource⟩

/-- The modules of the entries after the first `known`. -/
def Registry.modulesFrom (r : Registry) (known : Nat) : List ModuleReport :=
  (r.toList.drop known).map fun p => p.2.module p.1

theorem Entry.specifier_eq (entry : Entry) (id : ModuleId) :
    entry.specifier id = id.text ++ (entry.target.variant?.map ("/" ++ ·)).getD "" := by
  unfold specifier
  cases entry.target.variant? with
  | none => exact String.append_empty.symm
  | some variant => exact String.append_assoc

theorem Entry.openingId?_specifier (entry : Entry) (i : Nat) :
    openingId? (entry.specifier (ModuleId.ofIndex i)) = some (ModuleId.ofIndex i).text := by
  rw [specifier_eq]
  exact openingId?_append (ModuleId.utf8ByteSize_ofIndex i) _

namespace Plugin

variable {plugin : Plugin}

/-! ### Emitting -/

theorem emit_specifier (hr : plugin.registry.Numbered) {p : ModuleId × Entry}
    (hp : p ∈ plugin.registry.toList) :
    (plugin.emit (p.2.specifier p.1)).answer = .ok (p.2.module p.1) ∧
      (plugin.emit (p.2.specifier p.1)).plugin = plugin := by
  obtain ⟨id, entry⟩ := p
  obtain ⟨i, hi⟩ := List.mem_iff_getElem?.1 hp
  obtain rfl : id = ModuleId.ofIndex i := hr.fst_of_getElem? hi
  obtain ⟨claimed, served⟩ := resolve_eq_and_load_eq (entry.openingId?_specifier i)
    (Registry.get?_eq_some_iff_mem.2 hp)
  simp only [emit, claimed, plugin_resolve, served, plugin_load]
  exact ⟨rfl, trivial⟩

theorem emitAll_specifiers (hr : plugin.registry.Numbered) {entries : List (ModuleId × Entry)}
    (h : ∀ p ∈ entries, p ∈ plugin.registry.toList) :
    (plugin.emitAll (entries.map fun p => p.2.specifier p.1)).answer =
        .ok (entries.map fun p => p.2.module p.1) ∧
      (plugin.emitAll (entries.map fun p => p.2.specifier p.1)).plugin = plugin := by
  induction entries with
  | nil => exact ⟨rfl, rfl⟩
  | cons p entries ih =>
    rw [List.forall_mem_cons] at h
    obtain ⟨first, same⟩ := emit_specifier hr h.1
    obtain ⟨others, unchanged⟩ := ih h.2
    rw [List.map_cons, emitAll]
    simp only [first, same, others, unchanged]
    exact ⟨rfl, trivial⟩

/-! ### Previewing -/

/-- The first source decides whether the others are transformed. -/
theorem transformAll_cases (plugin : Plugin) (unit source : String)
    (sources : List (String × String)) :
    let first := plugin.transform source unit
    let others := first.plugin.transformAll sources
    (∃ cause, first.answer = .error cause ∧ plugin.transformAll ((unit, source) :: sources) =
        ⟨.error (.untransformed unit cause), first.plugin, first.calls⟩) ∨
      ∃ code, first.answer = .ok code ∧ plugin.transformAll ((unit, source) :: sources) =
        ⟨others.answer.map (⟨unit, code⟩ :: ·), others.plugin, first.calls ++ others.calls⟩ := by
  dsimp only
  rw [transformAll]
  cases (plugin.transform source unit).answer with
  | error cause => exact .inl ⟨cause, rfl, rfl⟩
  | ok code => exact .inr ⟨code, rfl, rfl⟩

theorem numbered_transformAll (hr : plugin.registry.Numbered) (sources : List (String × String)) :
    (plugin.transformAll sources).plugin.registry.Numbered := by
  induction sources generalizing plugin with
  | nil => exact hr
  | cons p sources ih =>
    have first := numbered_transform hr p.2 p.1
    obtain ⟨cause, -, h⟩ | ⟨code, -, h⟩ := transformAll_cases plugin p.1 p.2 sources
    · rwa [h]
    · rw [h]
      exact ih first

theorem extends_transformAll (hr : plugin.registry.Numbered) (sources : List (String × String)) :
    plugin.registry.Extends (plugin.transformAll sources).plugin.registry := by
  induction sources generalizing plugin with
  | nil => exact .refl _
  | cons p sources ih =>
    have first := extends_perform hr (.transform p.2 p.1)
    obtain ⟨cause, -, h⟩ | ⟨code, -, h⟩ := transformAll_cases plugin p.1 p.2 sources
    · rw [h]
      exact first
    · rw [h]
      exact first.trans (ih (numbered_transform hr p.2 p.1))

theorem preview_cases (hr : plugin.registry.Numbered) (sources : List (String × String))
    (emitModules : Bool) :
    (plugin.preview sources emitModules).answer =
        ((plugin.transformAll sources).answer.map fun files => ⟨files, if emitModules then
          (plugin.transformAll sources).plugin.registry.modulesFrom plugin.registry.size else []⟩) ∧
      (plugin.preview sources emitModules).plugin = (plugin.transformAll sources).plugin := by
  have numbered := numbered_transformAll hr sources
  rw [preview]
  cases (plugin.transformAll sources).answer with
  | error e => exact ⟨rfl, rfl⟩
  | ok files =>
    cases emitModules with
    | false => exact ⟨rfl, rfl⟩
    | true =>
      have stored : ∀ p ∈ (plugin.transformAll sources).plugin.registry.toList.drop
          plugin.registry.size, p ∈ (plugin.transformAll sources).plugin.registry.toList :=
        fun _ => List.mem_of_mem_drop
      obtain ⟨emitted, same⟩ := emitAll_specifiers numbered stored
      simp only [if_true, Registry.specifiersFrom, emitted, same]
      exact ⟨rfl, trivial⟩

end Plugin

end IconImports
