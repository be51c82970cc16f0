import IconImports.Proofs.Plugin.Serve
import IconImports.Proofs.Plugin.Stored
import IconImports.Proofs.Scan.Read

/-!
# What a generated module exports

A module that is generated for a variant exports the names of its entry, one a line
(`WellFormed.exports_moduleSource`). These are the names that the list of a statement asks for, in
order and as often as it does (`load_exports`). So a name that is asked for twice, under two aliases,
is exported twice (`load_exports_of_two_aliases`), which is an error in a module.
-/

namespace IconImports

/-- The name under which a line exports the default of another module, if it is such a line. -/
def exportedName? (line : List Char) : Option String :=
  (Statement.after? "export \x7b default as ".toList line).bind fun rest =>
    (Statement.after? " \x7d from ".toList (rest.dropWhile (· ≠ ' '))).map fun _ =>
      String.ofList (rest.takeWhile (· ≠ ' '))

/-- The names under which the lines of a text export defaults. -/
def exports (text : String) : List String := (text.toList.splitOn '\n').filterMap exportedName?

/-! ### The lines of a generated module -/

theorem exportedName?_reexport (v : String) {name : String} (h : ' ' ∉ name.toList) :
    exportedName? ((Target.variant v).reexport name).toList = some name := by
  let source := '\'' :: (packageName ++ "/" ++ v ++ "/" ++ name ++ ".js").toList ++ ['\'', ';']
  let rest := name.toList ++ (" \x7d from ".toList ++ source)
  have line : ((Target.variant v).reexport name).toList = "export \x7b default as ".toList ++ rest := by
    simp [Target.reexport_variant, rest, source]
  have unspaced : ∀ c ∈ name.toList, decide (c ≠ ' ') = true := by
    intro c hc
    rw [decide_eq_true_iff]
    rintro rfl
    exact h hc
  have name_eq : rest.takeWhile (· ≠ ' ') = name.toList := by
    rw [List.takeWhile_append_of_pos unspaced]
    simp
  have source_eq : rest.dropWhile (· ≠ ' ') = " \x7d from ".toList ++ source := by
    rw [List.dropWhile_append_of_pos unspaced]
    simp
  rw [exportedName?, line, Statement.after?_append, Option.bind_some, name_eq, source_eq,
    Statement.after?_append, Option.map_some, String.ofList_toList]

namespace Entry

variable {entry : Entry}

theorem WellFormed.not_mem_reexport (h : entry.WellFormed) {name : String}
    (hname : name ∈ entry.imports) : '\n' ∉ (entry.target.reexport name).toList := by
  have hn : '\n' ∉ name.toList := h.not_mem_of_mem_imports (by decide) hname
  cases ht : entry.target with
  | bare => simp [Target.reexport_bare, packageName, hn]
  | variant v =>
    have hv : '\n' ∉ v.toList := h.not_mem_of_target_eq (by decide) ht
    simp [Target.reexport_variant, packageName, hn, hv]

theorem WellFormed.splitOn_moduleSource (h : entry.WellFormed) (hne : entry.imports ≠ []) :
    entry.moduleSource.toList.splitOn '\n' =
      entry.imports.map fun name => (entry.target.reexport name).toList := by
  have lines : entry.moduleSource.toList =
      ['\n'].intercalate (entry.imports.map fun name => (entry.target.reexport name).toList) := by
    rw [moduleSource, String.toList_intercalate, List.map_map]
    rfl
  rw [lines]
  apply List.splitOn_intercalate
  · intro line hline
    obtain ⟨name, hname, rfl⟩ := List.mem_map.1 hline
    exact h.not_mem_reexport hname
  · simpa using hne

theorem WellFormed.exports_moduleSource (h : entry.WellFormed) {v : String}
    (hv : entry.target = .variant v) : exports entry.moduleSource = entry.imports := by
  by_cases hne : entry.imports = []
  · rw [moduleSource, hne]
    rfl
  · have exported : ∀ name ∈ entry.imports,
        exportedName? (entry.target.reexport name).toList = some name := by
      intro name hname
      rw [hv]
      exact exportedName?_reexport v (h.not_mem_of_mem_imports (by decide) hname)
    rw [exports, h.splitOn_moduleSource hne, List.filterMap_map]
    exact (List.filterMap_congr exported).trans List.filterMap_some

end Entry

/-! ### Served modules -/

namespace Plugin

variable {plugin : Plugin}

/-- What is served for an entry of a variant exports the names in the list of a statement, each as
often as it stands there. -/
theorem load_exports (h : plugin.Reachable) {id v : String} {entry : Entry}
    (stored : plugin.registry.get? id = some entry) (hv : entry.target = .variant v)
    (rest : String) :
    (∃ source, ∃ found ∈ scan source, found.variant = some v ∧
      importNames found.content = .ok entry.imports) ∧
    ∃ text, (plugin.load (virtualName (id ++ rest))).answer = some text ∧
      exports text = entry.imports ∧ ((exports text).Nodup ↔ entry.imports.Nodup) := by
  have mem := Registry.get?_eq_some_iff_mem.1 stored
  constructor
  · obtain ⟨source, unit, found, hfound, he⟩ := h.asked _ mem
    obtain ⟨names, hnames, rfl⟩ := Match.entry_eq_ok_iff.1 he
    have variant : (Target.ofVariant found.variant).variant? = some v := congrArg Target.variant? hv
    exact ⟨source, found, hfound, (Target.variant?_ofVariant_eq_some_iff.1 variant).1, hnames⟩
  · obtain ⟨i, rfl, -⟩ := h.numbered.get?_eq_some_iff.1 stored
    have opening := openingId?_append (ModuleId.utf8ByteSize_ofIndex i) rest
    have exported := (h.wellFormed _ mem).exports_moduleSource hv
    refine ⟨entry.moduleSource, (resolve_eq_and_load_eq opening stored).2, exported, ?_⟩
    rw [exported]

/-- Of two statements, the one with a variant asks for two names. -/
theorem load_exports_after_two_statements :
    let source := "import { w } from 'maic'; import { a as x, b as y } from 'maic/v'"
    let plugin := ((start .silent).transform source "u").plugin
    let entry : Entry := ⟨.variant "v", ["a", "b"]⟩
    plugin.Reachable ∧ plugin.registry.get? "0001" = some entry ∧ entry.target = .variant "v" ∧
      (∃ source, ∃ found ∈ scan source, found.variant = some "v" ∧
        importNames found.content = .ok entry.imports) ∧
      ∃ text, (plugin.load (virtualName ("0001" ++ "/v"))).answer = some text ∧
        exports text = entry.imports ∧ ((exports text).Nodup ↔ entry.imports.Nodup) := by
  intro source plugin entry
  have reachable : plugin.Reachable := (Reachable.start .silent).transform source "u"
  have stored : plugin.registry.get? "0001" = some entry := by decide +kernel
  exact ⟨reachable, stored, rfl, load_exports reachable stored rfl "/v"⟩

/-- A name that is asked for under two aliases is exported twice. -/
theorem load_exports_of_two_aliases :
    let source := "import { a as x, a as y } from 'maic/v'"
    let plugin := ((start .silent).transform source "u").plugin
    let line := "export \x7b default as a \x7d from 'maic/v/a.js';"
    let text := line ++ "\n" ++ line
    plugin.Reachable ∧
      ((start .silent).transform source "u").answer =
        .ok (some "import { a as x, a as y } from '0000/v'") ∧
      plugin.registry.get? "0000" = some ⟨.variant "v", ["a", "a"]⟩ ∧
      (plugin.load "\x000000").answer = some text ∧ exports text = ["a", "a"] ∧
      ¬ (exports text).Nodup := by
  intro source plugin line text
  exact ⟨(Reachable.start .silent).transform source "u", by decide +kernel, by decide +kernel,
    by decide +kernel, by decide +kernel, by decide +kernel⟩

end Plugin

end IconImports
