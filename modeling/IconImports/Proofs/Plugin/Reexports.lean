import IconImports.Proofs.Plugin.Serve
import IconImports.Proofs.Plugin.Stored

/-!
# Where generated modules lead

The text of a generated module quotes one module of the package for each name
(`quotations_moduleSource`). These are meant for the modules on disk, but the name of the package is
an identifier too: it is number 1040052. A plugin leaves the quoted modules alone exactly as long as
that number is not in use (`resolve_quotation_iff`), and it does get into use
(`resolve_quotation_after_replicate`).
-/

namespace IconImports

/-- What stands in a text between its first quote and the second, its third and the fourth, and so
on. -/
def quotations (s : List Char) : List (List Char) :=
  inner (pieces '\'' s)
where
  /-- Every second piece, as long as another one follows. -/
  inner : List (List Char) → List (List Char)
  | _ :: piece :: next :: rest => piece :: inner (next :: rest)
  | _ => []

/-- The module of the package in which a name lives. -/
def Target.module : Target → String → String
  | variant v, name => packageName ++ "/" ++ v ++ "/" ++ name ++ ".js"
  | bare, name => packageName ++ "/" ++ name ++ "/index.js"

/-! ### What a generated module quotes -/

theorem quotations_of_not_mem {s : List Char} (h : '\'' ∉ s) : quotations s = [] := by
  rw [quotations, pieces_of_not_mem h]
  rfl

theorem quotations_append {a q : List Char} (ha : '\'' ∉ a) (hq : '\'' ∉ q) (s : List Char) :
    quotations (a ++ '\'' :: (q ++ '\'' :: s)) = q :: quotations s := by
  rw [quotations, pieces_append_cons ha, pieces_append_cons hq, quotations]
  cases h : pieces '\'' s with
  | nil => exact absurd h (pieces_ne_nil _ _)
  | cons piece rest => rfl

namespace Entry

variable {entry : Entry}

theorem WellFormed.not_mem_module (h : entry.WellFormed) {name : String}
    (hname : name ∈ entry.imports) : '\'' ∉ (entry.target.module name).toList := by
  have hn : '\'' ∉ name.toList := h.not_mem_of_mem_imports (by decide) hname
  cases ht : entry.target with
  | bare => simp [Target.module, packageName, hn]
  | variant v =>
    have hv : '\'' ∉ v.toList := h.not_mem_of_target_eq (by decide) ht
    simp [Target.module, packageName, hn, hv]

/-- A line quotes the module of its name, and nothing else. -/
theorem WellFormed.quotations_reexport (h : entry.WellFormed) {name : String}
    (hname : name ∈ entry.imports) {a : List Char} (ha : '\'' ∉ a) (s : List Char) :
    quotations (a ++ ((entry.target.reexport name).toList ++ s)) =
      (entry.target.module name).toList :: quotations (';' :: s) := by
  have hn : '\'' ∉ name.toList := h.not_mem_of_mem_imports (by decide) hname
  obtain ⟨opening, ho, line⟩ : ∃ opening, '\'' ∉ opening ∧
      (entry.target.reexport name).toList =
        opening ++ '\'' :: ((entry.target.module name).toList ++ '\'' :: [';']) := by
    cases entry.target with
    | bare =>
      refine ⟨"export * from ".toList, by decide, ?_⟩
      simp [Target.reexport_bare, Target.module, packageName]
    | variant v =>
      refine ⟨("export \x7b default as " ++ name ++ " \x7d from ").toList, by simp [hn], ?_⟩
      simp [Target.reexport_variant, Target.module, packageName]
  have outside : '\'' ∉ a ++ opening := by
    rw [List.mem_append, not_or]
    exact ⟨ha, ho⟩
  rw [← quotations_append outside (h.not_mem_module hname) (';' :: s), line]
  simp

theorem WellFormed.quotations_moduleSource (h : entry.WellFormed) :
    quotations entry.moduleSource.toList =
      entry.imports.map fun name => (entry.target.module name).toList := by
  -- The induction goes over the lines; what stands between two of them comes before the next one.
  have lines : ∀ names : List String, (∀ name ∈ names, name ∈ entry.imports) →
      ∀ a : List Char, '\'' ∉ a →
      quotations (a ++ ("\n".intercalate (names.map entry.target.reexport)).toList) =
        names.map fun name => (entry.target.module name).toList := by
    intro names
    induction names with
    | nil =>
      intro _ a ha
      simpa using quotations_of_not_mem ha
    | cons name names ih =>
      intro hnames a ha
      rw [List.forall_mem_cons] at hnames
      cases names with
      | nil =>
        have line := h.quotations_reexport hnames.1 ha []
        have closed : quotations [';'] = [] := rfl
        rw [List.append_nil, closed] at line
        exact line
      | cons next names =>
        have line := h.quotations_reexport hnames.1 ha
          ('\n' :: ("\n".intercalate ((next :: names).map entry.target.reexport)).toList)
        have rest := ih hnames.2 [';', '\n'] (by decide)
        rw [List.cons_append, List.singleton_append] at rest
        rw [rest] at line
        simpa [String.intercalate_cons_cons] using line
  exact lines entry.imports (fun _ => id) [] List.not_mem_nil

end Entry

/-! ### Which of them are claimed -/

theorem ModuleId.mk_packageName : mk packageName = ofIndex 1040052 := by decide

theorem ModuleId.text_ofIndex_eq_packageName_iff {i : Nat} (h : i < capacity) :
    (ofIndex i).text = packageName ↔ i = 1040052 := by
  constructor
  · intro hid
    exact ofIndex_inj h (by decide) ((congrArg mk hid).trans mk_packageName)
  · rintro rfl
    exact (congrArg text mk_packageName).symm

theorem Target.exists_module_eq (target : Target) (name : String) :
    ∃ rest, target.module name = packageName ++ "/" ++ rest := by
  cases target with
  | bare => exact ⟨name ++ "/index.js", by simp only [Target.module, String.append_assoc]⟩
  | variant v =>
    exact ⟨v ++ "/" ++ name ++ ".js", by simp only [Target.module, String.append_assoc]⟩

namespace Plugin

variable {plugin : Plugin}

theorem exists_of_load_eq_some {name text : String} (h : (plugin.load name).answer = some text) :
    ∃ id entry, plugin.registry.get? id = some entry ∧ text = entry.moduleSource := by
  unfold load at h
  split at h
  · cases h
  next id _ =>
    split at h
    · cases h
    next entry he => exact ⟨id, entry, he, (Option.some.inj h).symm⟩

theorem contains_packageName_iff (hr : plugin.registry.Numbered) :
    plugin.registry.contains packageName ↔ 1040052 < plugin.registry.size := by
  rw [hr.contains_iff]
  constructor
  · rintro ⟨i, hi, hid⟩
    have hlt := Nat.lt_of_lt_of_le hi hr.size_le
    rwa [(ModuleId.text_ofIndex_eq_packageName_iff hlt).1 hid.symm] at hi
  · intro h
    exact ⟨1040052, h, congrArg ModuleId.text ModuleId.mk_packageName⟩

/-- The modules of the package are claimed if the name of the package is an identifier in use. -/
theorem resolve_packageName_append (plugin : Plugin) (rest : String) :
    (plugin.resolve (packageName ++ rest)).answer =
      if plugin.registry.contains packageName then some (virtualName (packageName ++ rest))
      else none := by
  have opening : openingId? (packageName ++ rest) = some packageName :=
    openingId?_append (by decide) rest
  simp only [resolve, opening]
  split <;> rfl

/-- A plugin leaves the modules that its generated modules quote to others, exactly as long as the
name of the package is not in use as an identifier. -/
theorem resolve_quotation_iff (h : plugin.Reachable) {name text : String}
    (hload : (plugin.load name).answer = some text) {q : List Char}
    (hq : q ∈ quotations text.toList) :
    (packageName ++ "/").toList <+: q ∧
      ((plugin.resolve (String.ofList q)).answer = none ↔ plugin.registry.size ≤ 1040052) := by
  obtain ⟨id, entry, he, rfl⟩ := exists_of_load_eq_some hload
  have stored := h.wellFormed _ (Registry.get?_eq_some_iff_mem.1 he)
  rw [stored.quotations_moduleSource] at hq
  obtain ⟨n, -, rfl⟩ := List.mem_map.1 hq
  obtain ⟨rest, hrest⟩ := entry.target.exists_module_eq n
  constructor
  · rw [hrest, String.toList_append (t := rest)]
    exact List.prefix_append _ _
  · rw [String.ofList_toList, hrest, String.append_assoc, resolve_packageName_append,
      ← Nat.not_lt, ← contains_packageName_iff h.numbered]
    split <;> simp_all

/-- While there are few entries, the quoted modules are left alone. -/
theorem resolve_quotation_after_two_sources :
    let calls := [.transform "import {a, b} from 'maic/v'" "u", .transform "import {w} from 'maic'" "u"]
    let plugin := ((start .silent).run calls).plugin
    plugin.Reachable ∧
      (plugin.load "\x000001").answer = some "export * from 'maic/w/index.js';" ∧
      "maic/w/index.js".toList ∈ quotations "export * from 'maic/w/index.js';".toList ∧
      (packageName ++ "/").toList <+: "maic/w/index.js".toList ∧
      ((plugin.resolve (String.ofList "maic/w/index.js".toList)).answer = none ↔
        plugin.registry.size ≤ 1040052) := by
  intro calls plugin
  have reachable : plugin.Reachable := (Reachable.start .silent).run calls
  have load : (plugin.load "\x000001").answer = some "export * from 'maic/w/index.js';" := by
    decide +kernel
  have quoted : "maic/w/index.js".toList ∈ quotations "export * from 'maic/w/index.js';".toList := by
    decide
  exact ⟨reachable, load, quoted, resolve_quotation_iff reachable load quoted⟩

theorem get?_packageName_run_replicate {source unit : String} {entry : Entry}
    (hm : (scan source).mapM (·.entry unit) = .ok [entry]) {n : Nat} (hn : 1040052 < n)
    (hle : n ≤ ModuleId.capacity) :
    ((start .silent).run (List.replicate n (.transform source unit))).plugin.registry.get?
      packageName = some entry := by
  have empty : (∅ : Registry).size = 0 := rfl
  have room : (∅ : Registry).size + (List.replicate n entry).length ≤ ModuleId.capacity := by
    rwa [empty, List.length_replicate, Nat.zero_add]
  have registered := Registry.numbered_empty.getElem?_append room (List.getElem?_replicate_of_lt hn)
  rw [empty, Nat.zero_add, ← ModuleId.mk_packageName] at registered
  have after : ((start .silent).run (List.replicate n (.transform source unit))).plugin = _ :=
    plugin_run_replicate Registry.numbered_empty hm (by rwa [List.length_replicate] at room)
  rw [after, Registry.get?_eq_some_iff_mem]
  exact List.mem_of_getElem? registered

/-- After 1040053 statements, a generated module quotes a module that the plugin claims. -/
theorem resolve_quotation_after_replicate :
    ∃ plugin, plugin = ((start .silent).run
        (List.replicate 1040053 (.transform "import {a} from 'maic/v'" "u"))).plugin ∧
      plugin.Reachable ∧
      (plugin.load "\x00maic").answer = some "export \x7b default as a \x7d from 'maic/v/a.js';" ∧
      "maic/v/a.js".toList ∈
        quotations "export \x7b default as a \x7d from 'maic/v/a.js';".toList ∧
      (plugin.resolve "maic/v/a.js").answer = some "\x00maic/v/a.js" := by
  have statement : (scan "import {a} from 'maic/v'").mapM (·.entry "u") =
      .ok [⟨.variant "v", ["a"]⟩] := by decide +kernel
  obtain ⟨plugin, hp⟩ : ∃ plugin, plugin = ((start .silent).run
      (List.replicate 1040053 (.transform "import {a} from 'maic/v'" "u"))).plugin := ⟨_, rfl⟩
  have reachable : plugin.Reachable := by
    rw [hp]
    exact (Reachable.start .silent).run _
  have stored : plugin.registry.get? packageName = some ⟨.variant "v", ["a"]⟩ := by
    rw [hp]
    exact get?_packageName_run_replicate statement (by decide) (by decide)
  have opening : openingId? "maic" = some packageName := by decide +kernel
  have opening' : openingId? "maic/v/a.js" = some packageName := by decide +kernel
  exact ⟨plugin, hp, reachable, (resolve_eq_and_load_eq opening stored).2, by decide,
    (resolve_eq_and_load_eq opening' stored).1⟩

end Plugin

end IconImports
