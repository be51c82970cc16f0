import IconImports.Proofs.Plugin.Failure
import IconImports.Proofs.Preview.Emitted

/-!
# What a preview reports

A preview names the module of a statement by its entry, while the statement names it by what stands
between its quotes. The two agree (`Match.module?_eq`), so the modules of one transformation are
those of the statements that it has redirected (`modules_transform`), and the modules of a preview
those of all its files, from left to right (`modules_transformAll`).

The main statement: `preview_reports`.
-/

namespace IconImports

/-! ### The module of a statement -/

/-- The module that a statement is served, in a text in which it has been redirected. -/
def Match.module? (found : Match) (code : String) : Option ModuleReport := do
  let specifier ← found.quoted? code
  let names ← (importNames found.content).toOption
  return ⟨specifier, "\x00" ++ specifier, "\n".intercalate (names.map found.line)⟩

/-- The modules of the statements of a file, if it has been changed. -/
def FileReport.modules (file : FileReport) (source : String) : List (Option ModuleReport) :=
  match file.code with
  | none => []
  | some code => (scan source).map (·.module? code)

/-- The name of an entry is what its statement says. -/
theorem Match.specifier_eq {st : Statement} (hst : st.WellFormed) (offset : Nat)
    (names : List String) (id : ModuleId) :
    Entry.specifier id ⟨.ofVariant (st.matchAt offset).variant, names⟩ =
      id.text ++ String.ofList (Statement.variantText st.variant) := by
  have variant : (st.matchAt offset).variant = st.variant.map String.ofList := rfl
  rw [Entry.specifier_eq, variant]
  cases hv : st.variant with
  | none => rfl
  | some v =>
    have named : String.ofList v ≠ "" := mt String.ofList_eq_empty_iff.1 (hst.variant v hv).1
    simp only [Option.map_some, Target.ofVariant, if_neg named, Target.variant?, Option.getD_some,
      Statement.variantText, String.ofList_cons]
    rfl

theorem Match.module?_eq {source unit out : String} {start i : Nat} {found : Match} {entry : Entry}
    (code : out.toList = (Segments.ofText source.toList).redirected start)
    (hi : (scan source)[i]? = some found) (hentry : found.entry unit = .ok entry) :
    found.module? out = some (entry.module (ModuleId.ofIndex (start + i))) := by
  obtain ⟨names, hnames, rfl⟩ := Match.entry_eq_ok_iff.1 hentry
  obtain ⟨st, hst, a, b, rfl, text⟩ :=
    Segments.exists_textWith_of_redirected (a := []) code hi
  have hst := Segments.wellFormed_of_mem_cut hst
  simp only [module?, Match.quoted?_of_toList_eq hst text, hnames, Except.toOption,
    Option.bind_eq_bind, Option.bind_some, Entry.module, Match.specifier_eq hst,
    Entry.moduleSource, Match.reexport_eq hst]
  rfl

namespace Plugin

variable {plugin : Plugin} {source unit : String} {sources : List (String × String)}
  {files : List FileReport}

/-! ### One source -/

theorem modules_transform (hr : plugin.registry.Numbered) {code : Option String}
    (h : (plugin.transform source unit).answer = .ok code) :
    ∃ new, (plugin.transform source unit).plugin.registry.toList = plugin.registry.toList ++ new ∧
      (FileReport.mk unit code).modules source = new.map fun p => some (p.2.module p.1) := by
  cases code with
  | none =>
    have same := plugin_transform_of_isIdle hr (by rw [h]; rfl)
    exact ⟨[], by rw [same, List.append_nil], rfl⟩
  | some out =>
    obtain ⟨entries, -, hm, hle, code, hplugin⟩ := transform_of_answer_eq_some hr h
    have length := length_of_mapM_eq_ok hm
    refine ⟨_, by rw [hplugin]; exact hr.toList_append hle, ?_⟩
    apply List.ext_getElem
    · simp [FileReport.modules, length]
    · intro i hi hi'
      have hlt : i < (scan source).length := by simpa [FileReport.modules] using hi
      obtain ⟨entry, hentry, he⟩ := getElem?_of_mapM_eq_ok hm (List.getElem?_eq_getElem hlt)
      have served := Match.module?_eq code (List.getElem?_eq_getElem hlt) he
      obtain ⟨_, rfl⟩ := List.getElem?_eq_some_iff.1 hentry
      simpa [FileReport.modules, ModuleId.range] using served

/-! ### All sources -/

theorem transformAll_cons_eq_ok
    (h : (plugin.transformAll ((unit, source) :: sources)).answer = .ok files) :
    ∃ code others, (plugin.transform source unit).answer = .ok code ∧
      ((plugin.transform source unit).plugin.transformAll sources).answer = .ok others ∧
      files = ⟨unit, code⟩ :: others ∧
      (plugin.transformAll ((unit, source) :: sources)).plugin =
        ((plugin.transform source unit).plugin.transformAll sources).plugin := by
  obtain ⟨cause, -, all⟩ | ⟨code, first, all⟩ := transformAll_cases plugin unit source sources
  · rw [all] at h
    cases h
  · rw [all] at h ⊢
    dsimp only at h
    cases hothers : ((plugin.transform source unit).plugin.transformAll sources).answer with
    | error e =>
      rw [hothers] at h
      cases h
    | ok others =>
      rw [hothers] at h
      exact ⟨code, others, first, rfl, (Except.ok.inj h).symm, rfl⟩

theorem transformAll_cons_of_eq_ok {code : Option String}
    (h : (plugin.transform source unit).answer = .ok code) (sources : List (String × String)) :
    let others := (plugin.transform source unit).plugin.transformAll sources
    plugin.transformAll ((unit, source) :: sources) = ⟨others.answer.map (⟨unit, code⟩ :: ·),
      others.plugin, (plugin.transform source unit).calls ++ others.calls⟩ := by
  rw [transformAll, h]

theorem exists_of_transformAll_eq_error {e : PreviewError}
    (h : (plugin.transformAll sources).answer = .error e) :
    ∃ before unit source after files cause, sources = before ++ (unit, source) :: after ∧
      e = .untransformed unit cause ∧ (plugin.transformAll before).answer = .ok files ∧
      ((plugin.transformAll before).plugin.transform source unit).answer = .error cause ∧
      (plugin.transformAll sources).plugin =
        ((plugin.transformAll before).plugin.transform source unit).plugin := by
  induction sources generalizing plugin with
  | nil => cases h
  | cons p sources ih =>
    obtain ⟨unit, source⟩ := p
    obtain ⟨cause, first, all⟩ | ⟨code, first, all⟩ := transformAll_cases plugin unit source sources
    · rw [all] at h ⊢
      exact ⟨[], unit, source, sources, [], cause, rfl, (Except.error.inj h).symm, rfl, first, rfl⟩
    · rw [all] at h ⊢
      dsimp only at h
      cases hothers : ((plugin.transform source unit).plugin.transformAll sources).answer with
      | ok others =>
        rw [hothers] at h
        cases h
      | error e' =>
        rw [hothers] at h
        obtain rfl := Except.error.inj h
        obtain ⟨before, unit', source', after, files, cause, rfl, rfl, hbefore, failed, same⟩ :=
          ih hothers
        have begun := transformAll_cons_of_eq_ok first before
        refine ⟨(unit, source) :: before, unit', source', after, ⟨unit, code⟩ :: files, cause, rfl,
          rfl, ?_, ?_, ?_⟩
        · rw [begun, hbefore]
          rfl
        · rwa [begun]
        · rwa [begun]

theorem transformAll_eq_error {e : PreviewError}
    (h : (plugin.transformAll sources).answer = .error e) :
    ∃ unit cause, e = .untransformed unit cause := by
  obtain ⟨-, unit, -, -, -, cause, -, rfl, -⟩ := exists_of_transformAll_eq_error h
  exact ⟨unit, cause, rfl⟩

theorem run_transformAll (h : (plugin.transformAll sources).answer = .ok files) :
    files.map (·.path) = sources.map Prod.fst ∧
      (plugin.run (sources.map fun p => .transform p.2 p.1)).answer =
        files.map (fun file => .transformed (.ok file.code)) ∧
      (plugin.run (sources.map fun p => .transform p.2 p.1)).plugin =
        (plugin.transformAll sources).plugin := by
  induction sources generalizing plugin files with
  | nil =>
    obtain rfl := Except.ok.inj h
    exact ⟨rfl, rfl, rfl⟩
  | cons p sources ih =>
    obtain ⟨unit, source⟩ := p
    obtain ⟨code, others, first, hothers, rfl, hplugin⟩ := transformAll_cons_eq_ok h
    obtain ⟨paths, codes, same⟩ := ih hothers
    rw [hplugin, ← same]
    simp only [List.map_cons, paths, run, perform, Outcome.map, first, codes, true_and]

theorem modules_transformAll (hr : plugin.registry.Numbered)
    (h : (plugin.transformAll sources).answer = .ok files) :
    ∃ new, (plugin.transformAll sources).plugin.registry.toList = plugin.registry.toList ++ new ∧
      ((sources.zip files).flatMap fun p => p.2.modules p.1.2) =
        new.map fun p => some (p.2.module p.1) := by
  induction sources generalizing plugin files with
  | nil => exact ⟨[], (List.append_nil _).symm, rfl⟩
  | cons p sources ih =>
    obtain ⟨unit, source⟩ := p
    obtain ⟨code, others, first, hothers, rfl, hplugin⟩ := transformAll_cons_eq_ok h
    obtain ⟨new, later, modules⟩ := modules_transform hr first
    obtain ⟨new', later', modules'⟩ := ih (numbered_transform hr source unit) hothers
    refine ⟨new ++ new', ?_, ?_⟩
    · rw [hplugin, later', later, List.append_assoc]
    · rw [List.zip_cons_cons, List.flatMap_cons, modules, modules', List.map_append]

/-! ### The report -/

/-- `report` shows what `sources` become, and the modules of their redirected statements. -/
structure Reports (plugin : Plugin) (sources : List (String × String)) (emitModules : Bool)
    (report : Report) : Prop where
  paths : report.files.map (·.path) = sources.map Prod.fst
  /-- The files have the texts that transforming the sources one after the other leads to. -/
  codes : (plugin.run (sources.map fun p => .transform p.2 p.1)).answer =
    report.files.map fun file => .transformed (.ok file.code)
  later : (plugin.preview sources emitModules).plugin =
    (plugin.run (sources.map fun p => .transform p.2 p.1)).plugin
  /-- There is one module for each redirected statement, file by file and from left to right. -/
  modules : report.modules.map some =
    if emitModules then (sources.zip report.files).flatMap fun p => p.2.modules p.1.2 else []
  /-- No module is that of an entry that was there before. -/
  new : ∀ module ∈ report.modules, ∃ id, openingId? module.specifier = some id ∧
    plugin.registry.contains id = false

theorem reports (hr : plugin.registry.Numbered) {emitModules : Bool} {report : Report}
    (h : (plugin.preview sources emitModules).answer = .ok report) :
    Reports plugin sources emitModules report := by
  obtain ⟨hanswer, hplugin⟩ := preview_cases hr sources emitModules
  rw [hanswer] at h
  cases hfiles : (plugin.transformAll sources).answer with
  | error e =>
    rw [hfiles] at h
    cases h
  | ok files =>
    rw [hfiles] at h
    obtain rfl := Except.ok.inj h
    obtain ⟨paths, codes, same⟩ := run_transformAll hfiles
    obtain ⟨new, entries, modules⟩ := modules_transformAll hr hfiles
    have numbered := numbered_transformAll hr sources
    have emitted : (plugin.transformAll sources).plugin.registry.modulesFrom plugin.registry.size =
        new.map fun p => p.2.module p.1 := by
      rw [Registry.modulesFrom, entries, ← Registry.length_toList, List.drop_left]
    constructor
    case paths => exact paths
    case codes => exact codes
    case later => rw [hplugin, same]
    case modules =>
      cases emitModules with
      | false => rfl
      | true =>
        simp only [if_true, emitted, modules, List.map_map]
        rfl
    case new =>
      intro module hmodule
      cases emitModules with
      | false => cases hmodule
      | true =>
        simp only [if_true, emitted, List.mem_map] at hmodule
        obtain ⟨p, hp, rfl⟩ := hmodule
        have stored : p ∈ (plugin.transformAll sources).plugin.registry.toList := by
          rw [entries]
          exact List.mem_append_right _ hp
        -- The name of a module opens with an identifier, since the identifier is a number.
        obtain ⟨i, hi⟩ := List.mem_iff_getElem?.1 stored
        have number : p.1 = ModuleId.ofIndex i := numbered.fst_of_getElem? hi
        have opening := p.2.openingId?_specifier i
        rw [← number] at opening
        exact ⟨p.1.text, opening, Registry.contains_eq_false_of_mem entries hp⟩

/-- A preview shows the modules of its own sources only, it fails only where a transformation fails,
and it comes to the same without modules. -/
theorem preview_reports (h : plugin.Reachable) (sources : List (String × String)) :
    (∀ emitModules report, (plugin.preview sources emitModules).answer = .ok report →
        Reports plugin sources emitModules report) ∧
      (∀ emitModules specifier,
        (plugin.preview sources emitModules).answer ≠ .error (.unclaimed specifier) ∧
          (plugin.preview sources emitModules).answer ≠ .error (.unloaded specifier)) ∧
      (plugin.preview sources true).answer.map (·.files) =
        (plugin.preview sources false).answer.map (·.files) ∧
      (plugin.preview sources true).plugin = (plugin.preview sources false).plugin := by
  have hr := h.numbered
  refine ⟨fun _ _ => reports hr, fun emitModules specifier => ?_, ?_, ?_⟩
  · rw [(preview_cases hr sources emitModules).1]
    cases hfiles : (plugin.transformAll sources).answer with
    | ok files => exact ⟨nofun, nofun⟩
    | error e =>
      obtain ⟨unit, cause, rfl⟩ := transformAll_eq_error hfiles
      exact ⟨nofun, nofun⟩
  · rw [(preview_cases hr sources true).1, (preview_cases hr sources false).1]
    cases (plugin.transformAll sources).answer <;> rfl
  · rw [(preview_cases hr sources true).2, (preview_cases hr sources false).2]

/-- The first file of three is not changed, and the registry has an entry before the preview. -/
theorem preview_reports_after_first_source :
    let plugin := ((start .silent).transform "import { a } from 'maic/v'" "first").plugin
    let sources := [("none", "from 'maic'"),
      ("two", "import {e} from 'maic' import { w as é, v, } from \"maic/v';"),
      ("one", "import {} from 'maic/w'")]
    let files := [⟨"none", none⟩,
      ⟨"two", "import {e} from '0001' import { w as é, v, } from \"0002/v';"⟩,
      ⟨"one", "import {} from '0003/w'"⟩]
    let modules := [⟨"0001", "\x000001", "export * from 'maic/e/index.js';"⟩,
      ⟨"0002/v", "\x000002/v", "export \x7b default as w \x7d from 'maic/v/w.js';" ++
        "\nexport \x7b default as v \x7d from 'maic/v/v.js';"⟩,
      ⟨"0003/w", "\x000003/w", ""⟩]
    plugin.Reachable ∧ (plugin.preview sources true).answer = .ok ⟨files, modules⟩ ∧
      Reports plugin sources true ⟨files, modules⟩ ∧
      (∀ emitModules specifier,
        (plugin.preview sources emitModules).answer ≠ .error (.unclaimed specifier) ∧
          (plugin.preview sources emitModules).answer ≠ .error (.unloaded specifier)) ∧
      (plugin.preview sources true).answer.map (·.files) =
        (plugin.preview sources false).answer.map (·.files) ∧
      (plugin.preview sources true).plugin = (plugin.preview sources false).plugin := by
  have reachable := (Reachable.start .silent).transform "import { a } from 'maic/v'" "first"
  intro plugin sources files modules
  have shown : (plugin.preview sources true).answer = .ok ⟨files, modules⟩ := by decide +kernel
  exact ⟨reachable, shown, (preview_reports reachable sources).1 _ _ shown,
    (preview_reports reachable sources).2⟩

end Plugin

end IconImports
