import IconImports.Proofs.Preview.Reported

/-!
# Previews of two lists

A preview in one call asks for all modules at its end. In two calls, the modules of the first list are
asked for before the second list is looked at, by a plugin that knows fewer entries. It comes to the
same: transforming goes on where it was (`transformAll_append`), and what was registered before is
still there, so the modules of the whole are those of the first registry and then the new ones
(`Extends.modulesFrom_eq`).

A preview that fails has stopped at one source (`preview_eq_error_iff`). It leaves behind the entries
of all sources before that one, and nothing of the source itself (`Stops.entered`).

The main statement: `preview_append`.
-/

namespace IconImports

/-- The statements of sources, each with the unit in which it stands. -/
def statements (sources : List (String × String)) : List (String × Match) :=
  sources.flatMap fun p => (scan p.2).map fun m => (p.1, m)

/-- What the statements of sources ask for. -/
def requested (sources : List (String × String)) : Except RedirectError (List Entry) :=
  (statements sources).mapM fun p => p.2.entry p.1

theorem requested_cons (unit source : String) (sources : List (String × String)) :
    requested ((unit, source) :: sources) = do
      let first ← (scan source).mapM (·.entry unit)
      let others ← requested sources
      return first ++ others := by
  rw [requested, statements, List.flatMap_cons, List.mapM_append, List.mapM_map]
  rfl

/-- The calls that redirect the imports of sources. -/
def transforms (sources : List (String × String)) : List Call :=
  sources.map fun p => .transform p.2 p.1

/-! ### Registries that grow -/

namespace Registry

variable {r r' : Registry}

/-- The modules of a registry that has grown are the old ones, and then the new ones. -/
theorem Extends.modulesFrom_eq (h : r.Extends r') {known : Nat} (hle : known ≤ r.size) :
    r'.modulesFrom known = r.modulesFrom known ++ r'.modulesFrom r.size := by
  obtain ⟨new, added⟩ := h
  have hle : known ≤ r.toList.length := by rwa [length_toList]
  simp only [modulesFrom, ← added, List.drop_append_of_le_length hle, ← length_toList,
    List.drop_left, List.map_append]

end Registry

namespace Plugin

variable {plugin : Plugin} {source unit : String} {sources xs ys : List (String × String)}

/-! ### Transforming two lists -/

theorem transformAll_append (plugin : Plugin) (xs ys : List (String × String)) :
    let first := plugin.transformAll xs
    let second := first.plugin.transformAll ys
    plugin.transformAll (xs ++ ys) =
      match first.answer with
      | .error e => ⟨.error e, first.plugin, first.calls⟩
      | .ok files => ⟨second.answer.map (files ++ ·), second.plugin, first.calls ++ second.calls⟩ := by
  dsimp only
  induction xs generalizing plugin with
  | nil =>
    have same : (plugin.transformAll ys).answer.map ([] ++ ·) = (plugin.transformAll ys).answer :=
      congrFun Except.map_id _
    show plugin.transformAll ys = ⟨(plugin.transformAll ys).answer.map ([] ++ ·), _, _⟩
    rw [same]
    rfl
  | cons p xs ih =>
    obtain ⟨unit, source⟩ := p
    rw [List.cons_append, transformAll, transformAll, ih]
    cases (plugin.transform source unit).answer with
    | error e => rfl
    | ok code =>
      dsimp only
      generalize (plugin.transform source unit).plugin.transformAll xs = others
      cases others.answer with
      | error e => rfl
      | ok files =>
        dsimp only [Except.map]
        cases (others.plugin.transformAll ys).answer with
        | error e => simp only [List.append_assoc]
        | ok files' => simp only [List.append_assoc, List.cons_append]

/-! ### What a failure leaves behind -/

theorem plugin_transformAll_of_eq_ok (hr : plugin.registry.Numbered) {files : List FileReport}
    (h : (plugin.transformAll sources).answer = .ok files) :
    ∃ entries, requested sources = .ok entries ∧
      plugin.registry.size + entries.length ≤ ModuleId.capacity ∧
      (plugin.transformAll sources).plugin =
        ⟨plugin.registry.append entries, plugin.logger⟩ := by
  induction sources generalizing plugin files with
  | nil => exact ⟨[], rfl, hr.size_le, rfl⟩
  | cons p sources ih =>
    obtain ⟨unit, source⟩ := p
    obtain ⟨code, others, first, hothers, -, same⟩ := transformAll_cons_eq_ok h
    obtain ⟨entries, hm, hle, begun⟩ := plugin_transform_of_eq_ok hr first
    obtain ⟨entries', hm', hle', ended⟩ := ih (numbered_transform hr source unit) hothers
    rw [begun, hr.size_append hle] at hle'
    refine ⟨entries ++ entries', ?_, by rw [List.length_append]; omega, ?_⟩
    · rw [requested_cons, hm, hm']
      rfl
    · rw [same, ended, begun, Registry.append_append]

/-- Redirecting the imports of the source called `unit` fails after those of `before` have been
redirected, and `later` is what it leaves behind. -/
structure Stops (plugin : Plugin) (before : List (String × String)) (unit source : String)
    (cause : RedirectError) (later : Plugin) : Prop where
  redirected : ∀ answer ∈ (plugin.run (transforms before)).answer,
    ∃ code, answer = .transformed (.ok code)
  reached : (plugin.run (transforms before)).plugin = later
  failed : (later.transform source unit).answer = .error cause

theorem exists_transformAll_eq_ok
    (h : ∀ answer ∈ (plugin.run (transforms sources)).answer, ∃ code, answer = .transformed (.ok code)) :
    ∃ files, (plugin.transformAll sources).answer = .ok files := by
  induction sources generalizing plugin with
  | nil => exact ⟨[], rfl⟩
  | cons p sources ih =>
    obtain ⟨unit, source⟩ := p
    obtain ⟨⟨code, hcode⟩, others⟩ := List.forall_mem_cons.1 h
    have first : (plugin.transform source unit).answer = .ok code := Answer.transformed.inj hcode
    obtain ⟨files, (hfiles : ((plugin.transform source unit).plugin.transformAll sources).answer = _)⟩ :=
      ih others
    refine ⟨⟨unit, code⟩ :: files, ?_⟩
    rw [transformAll_cons_of_eq_ok first, hfiles]
    rfl

section Stops

variable {before : List (String × String)} {cause : RedirectError} {later : Plugin}
  {emitModules : Bool} {e : PreviewError}

theorem Stops.transformAll_eq (h : Stops plugin before unit source cause later) :
    ∃ files, (plugin.transformAll before).answer = .ok files ∧
      (plugin.transformAll before).plugin = later := by
  obtain ⟨files, hfiles⟩ := exists_transformAll_eq_ok h.redirected
  obtain ⟨-, -, same⟩ := run_transformAll hfiles
  exact ⟨files, hfiles, same.symm.trans h.reached⟩

theorem Stops.entered (h : Stops plugin before unit source cause later)
    (hr : plugin.registry.Numbered) :
    ∃ entries, requested before = .ok entries ∧ later.registry.toList = plugin.registry.toList ++
      (ModuleId.range plugin.registry.size entries.length).zip entries := by
  obtain ⟨files, hfiles, rfl⟩ := h.transformAll_eq
  obtain ⟨entries, hm, hle, grown⟩ := plugin_transformAll_of_eq_ok hr hfiles
  exact ⟨entries, hm, by rw [grown]; exact hr.toList_append hle⟩

theorem transformAll_eq_error_of_stops (h : Stops plugin before unit source cause later)
    (after : List (String × String)) :
    (plugin.transformAll (before ++ (unit, source) :: after)).answer =
      .error (.untransformed unit cause) := by
  obtain ⟨files, hfiles, reached⟩ := h.transformAll_eq
  rw [transformAll_append]
  simp only [hfiles, reached, transformAll, h.failed]
  rfl

theorem preview_eq_error_iff_transformAll (hr : plugin.registry.Numbered) :
    (plugin.preview sources emitModules).answer = .error e ↔
      (plugin.transformAll sources).answer = .error e := by
  rw [(preview_cases hr sources emitModules).1]
  cases (plugin.transformAll sources).answer with
  | ok files => exact ⟨nofun, nofun⟩
  | error e' => simp [Except.map]

/-- A preview fails exactly where it stops at one of its sources, and it leaves behind what was
there when it did. -/
theorem preview_eq_error_iff (hr : plugin.registry.Numbered) :
    (plugin.preview sources emitModules).answer = .error e ↔
      ∃ before unit source after cause, sources = before ++ (unit, source) :: after ∧
        e = .untransformed unit cause ∧
        Stops plugin before unit source cause (plugin.preview sources emitModules).plugin := by
  rw [preview_eq_error_iff_transformAll hr, (preview_cases hr sources emitModules).2]
  constructor
  · intro h
    obtain ⟨before, unit, source, after, files, cause, rfl, rfl, hbefore, hcause, same⟩ :=
      exists_of_transformAll_eq_error h
    obtain ⟨-, answers, ran⟩ := run_transformAll hbefore
    rw [same, plugin_transform_of_isIdle (numbered_transformAll hr before) (by rw [hcause]; rfl)]
    refine ⟨before, unit, source, after, cause, rfl, rfl, ?_, ran, hcause⟩
    intro answer hmem
    rw [transforms, answers] at hmem
    obtain ⟨file, -, rfl⟩ := List.mem_map.1 hmem
    exact ⟨file.code, rfl⟩
  · rintro ⟨before, unit, source, after, cause, rfl, rfl, stops⟩
    exact transformAll_eq_error_of_stops stops after

end Stops

/-! ### Previewing two lists -/

/-- `whole` is what `first` comes to, followed by `second` if `first` succeeds. -/
structure Joins (whole first second : Outcome (Except PreviewError Report)) : Prop where
  succeeds : (∃ report, whole.answer = .ok report) ↔
    (∃ report, first.answer = .ok report) ∧ ∃ report, second.answer = .ok report
  joined : ∀ r s, first.answer = .ok r → second.answer = .ok s →
    whole.answer = .ok ⟨r.files ++ s.files, r.modules ++ s.modules⟩
  first_fails : ∀ e, first.answer = .error e → whole.answer = .error e ∧ whole.plugin = first.plugin
  second_fails : ∀ r e, first.answer = .ok r → second.answer = .error e → whole.answer = .error e
  later : ∀ r, first.answer = .ok r → whole.plugin = second.plugin

theorem Joins.of_error {whole first second : Outcome (Except PreviewError Report)}
    {e : PreviewError} (hfirst : first.answer = .error e) (hwhole : whole.answer = .error e)
    (later : whole.plugin = first.plugin) : Joins whole first second := by
  constructor <;> simp_all

theorem Joins.of_ok {whole first second : Outcome (Except PreviewError Report)} {r : Report}
    (hfirst : first.answer = .ok r)
    (hwhole : whole.answer =
      second.answer.map fun s => ⟨r.files ++ s.files, r.modules ++ s.modules⟩)
    (later : whole.plugin = second.plugin) : Joins whole first second := by
  cases hsecond : second.answer <;> constructor <;> simp_all [Except.map]

theorem joins_preview (hr : plugin.registry.Numbered) (xs ys : List (String × String))
    (emitModules : Bool) :
    Joins (plugin.preview (xs ++ ys) emitModules) (plugin.preview xs emitModules)
      ((plugin.preview xs emitModules).plugin.preview ys emitModules) := by
  have numbered := numbered_transformAll hr xs
  obtain ⟨hwhole, whole⟩ := preview_cases hr (xs ++ ys) emitModules
  obtain ⟨hfirst, first⟩ := preview_cases hr xs emitModules
  obtain ⟨hsecond, second⟩ := preview_cases numbered ys emitModules
  have both := transformAll_append plugin xs ys
  cases hxs : (plugin.transformAll xs).answer with
  | error e =>
    rw [hxs] at hfirst
    simp only [hxs] at both
    rw [both] at hwhole whole
    exact .of_error hfirst hwhole (whole.trans first.symm)
  | ok files =>
    rw [hxs] at hfirst
    simp only [hxs] at both
    rw [both] at hwhole whole
    rw [first]
    apply Joins.of_ok hfirst
    · have old := (extends_transformAll hr xs).size_le
      have modules := (extends_transformAll numbered ys).modulesFrom_eq old
      rw [hwhole, hsecond]
      cases (((plugin.transformAll xs).plugin).transformAll ys).answer with
      | error e => rfl
      | ok files' => cases emitModules <;> simp [Except.map, modules]
    · exact whole.trans second.symm

/-- A preview of two lists is a preview of the first and then of the second. It stops at the first
source that fails, and leaves the entries of all sources before that one behind. -/
theorem preview_append (h : plugin.Reachable) (xs ys : List (String × String)) (emitModules : Bool) :
    let whole := plugin.preview (xs ++ ys) emitModules
    let first := plugin.preview xs emitModules
    let second := first.plugin.preview ys emitModules
    Joins whole first second ∧
      ∀ e, whole.answer = .error e → ∃ before unit source after cause entries,
        xs ++ ys = before ++ (unit, source) :: after ∧ e = .untransformed unit cause ∧
          Stops plugin before unit source cause whole.plugin ∧ requested before = .ok entries ∧
          whole.plugin.registry.toList = plugin.registry.toList ++
            (ModuleId.range plugin.registry.size entries.length).zip entries := by
  refine ⟨joins_preview h.numbered xs ys emitModules, fun e he => ?_⟩
  obtain ⟨before, unit, source, after, cause, split, rfl, stops⟩ :=
    (preview_eq_error_iff h.numbered).1 he
  obtain ⟨entries, hentries, entered⟩ := stops.entered h.numbered
  exact ⟨before, unit, source, after, cause, entries, split, rfl, stops, hentries, entered⟩

/-- The second list has a source that fails, after the registry has grown by one entry of each list. -/
theorem preview_append_after_first_source :
    let plugin := ((start .silent).transform "import { a } from 'maic/v'" "first").plugin
    let xs := [("none", "from 'maic'"), ("one", "import {} from 'maic/w'")]
    let ys := [("two", "import {e, } from 'maic'"), ("bad", "import \x7b 'd' as e \x7d from \"maic/v\""),
      ("last", "import {f} from 'maic'")]
    let whole := plugin.preview (xs ++ ys) true
    let first := plugin.preview xs true
    let second := first.plugin.preview ys true
    let e := PreviewError.untransformed "bad" (.invalidImport "bad" "'d' as e")
    plugin.Reachable ∧ whole.answer = .error e ∧ Joins whole first second ∧
      ∃ before unit source after cause entries,
        xs ++ ys = before ++ (unit, source) :: after ∧ e = .untransformed unit cause ∧
          Stops plugin before unit source cause whole.plugin ∧ requested before = .ok entries ∧
          whole.plugin.registry.toList = plugin.registry.toList ++
            (ModuleId.range plugin.registry.size entries.length).zip entries := by
  have reachable := (Reachable.start .silent).transform "import { a } from 'maic/v'" "first"
  intro plugin xs ys whole first second e
  have failed : whole.answer = .error e := by decide +kernel
  have appended := preview_append reachable xs ys true
  exact ⟨reachable, failed, appended.1, appended.2 e failed⟩

end Plugin

end IconImports
