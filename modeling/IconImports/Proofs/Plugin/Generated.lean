import IconImports.Proofs.Plugin.Exports
import IconImports.Proofs.Plugin.Reexports
import IconImports.Proofs.Scan.Complete

/-!
# Generated modules are read again

Nothing is escaped in a generated module; that its text can be relied on is due to the words of
which the names and variants of stored entries are made. The entry can be read back from the text
(`WellFormed.ofModuleSource?_moduleSource`), so two entries that ask for something have the same
text only if they ask for the same (`moduleSource_eq_iff_of_stored`).

A host hands the text of a served module to a plugin once more. No statement is found in it: each
opening brace in it follows the word of an export (`OpensExports`). So every plugin leaves it as it
is (`scan_load_eq_nil`).
-/

namespace IconImports

/-- The lines of a text. The last one is not ended by a line feed, and the empty text has none. -/
def lines (text : String) : List (List Char) :=
  if text = "" then [] else text.toList.splitOn '\n'

/-! ### Reading entries back -/

namespace Target

/-- The name that a line provides, and where it lives. -/
def ofReexport? (line : List Char) : Option (Target × String) :=
  match pieces '/' line with
  | [opening, word, _] =>
    if opening = "export * from 'maic".toList then some (bare, String.ofList word)
    else (exportedName? line).map (variant (String.ofList word), ·)
  | _ => none

/-- A line with nothing in the places of its words. -/
def frame : Target → String
  | variant _ => (variant "").reexport ""
  | bare => bare.reexport ""

theorem ofReexport?_bare {name : String} (h : '/' ∉ name.toList) :
    ofReexport? (bare.reexport name).toList = some (bare, name) := by
  have line : (bare.reexport name).toList =
      "export * from 'maic".toList ++ '/' :: (name.toList ++ '/' :: "index.js';".toList) := by
    simp [reexport_bare, packageName]
  rw [ofReexport?, line, pieces_append_cons (by decide), pieces_append_cons h,
    pieces_of_not_mem (by decide)]
  simp

theorem ofReexport?_variant {v name : String} (hv : '/' ∉ v.toList) (hname : '/' ∉ name.toList)
    (hspace : ' ' ∉ name.toList) :
    ofReexport? ((variant v).reexport name).toList = some (variant v, name) := by
  let opening := "export \x7b default as ".toList ++ name.toList ++ " \x7d from 'maic".toList
  have line : ((variant v).reexport name).toList =
      opening ++ '/' :: (v.toList ++ '/' :: (name.toList ++ ".js';".toList)) := by
    simp [reexport_variant, packageName, opening]
  have hopening : '/' ∉ opening := by simp [opening, hname]
  have hend : '/' ∉ name.toList ++ ".js';".toList := by simp [hname]
  have other : opening ≠ "export * from 'maic".toList := by simp [opening]
  have parts : pieces '/' ((variant v).reexport name).toList =
      [opening, v.toList, name.toList ++ ".js';".toList] := by
    rw [line, pieces_append_cons hopening, pieces_append_cons hv, pieces_of_not_mem hend]
  simp only [ofReexport?, parts, if_neg other, exportedName?_reexport v hspace, Option.map_some,
    String.ofList_toList]

end Target

/-- The entry whose module has a text. -/
def Entry.ofModuleSource? (text : String) : Option Entry := do
  let provided ← (lines text).mapM Target.ofReexport?
  let (target, _) ← provided.head?
  return ⟨target, provided.map Prod.snd⟩

namespace Entry.WellFormed

variable {entry : Entry}

theorem ofReexport?_reexport (h : entry.WellFormed) {name : String} (hname : name ∈ entry.imports) :
    Target.ofReexport? (entry.target.reexport name).toList = some (entry.target, name) := by
  have slash : '/' ∉ name.toList := h.not_mem_of_mem_imports (by decide) hname
  have space : ' ' ∉ name.toList := h.not_mem_of_mem_imports (by decide) hname
  cases ht : entry.target with
  | bare => exact Target.ofReexport?_bare slash
  | variant v => exact Target.ofReexport?_variant (h.not_mem_of_target_eq (by decide) ht) slash space

theorem lines_moduleSource (h : entry.WellFormed) :
    lines entry.moduleSource = entry.imports.map fun name => (entry.target.reexport name).toList := by
  by_cases hne : entry.imports = []
  · rw [moduleSource, hne]
    rfl
  · have split := h.splitOn_moduleSource hne
    have nonempty : entry.moduleSource ≠ "" := by
      intro he
      obtain ⟨name, names, himports⟩ := List.exists_cons_of_ne_nil hne
      have hname : name ∈ entry.imports := by simp [himports]
      have provided := h.ofReexport?_reexport hname
      have line : [] = (entry.target.reexport name).toList := by
        simpa [he, himports] using congrArg List.head? split
      rw [← line] at provided
      cases provided
    rw [lines, if_neg nonempty, split]

theorem ofModuleSource?_moduleSource (h : entry.WellFormed) (hne : entry.imports ≠ []) :
    ofModuleSource? entry.moduleSource = some entry := by
  have provided : (lines entry.moduleSource).mapM Target.ofReexport? =
      some (entry.imports.map (entry.target, ·)) := by
    rw [h.lines_moduleSource]
    exact mapM_map_eq_some fun name hname => h.ofReexport?_reexport hname
  obtain ⟨name, names, himports⟩ := List.exists_cons_of_ne_nil hne
  have first : (entry.imports.map (entry.target, ·)).head? = some (entry.target, name) := by
    rw [himports]
    rfl
  rw [ofModuleSource?, provided, Option.bind_eq_bind, Option.bind_some, first]
  simp [Function.comp_def]

end Entry.WellFormed

/-! ### Words and lines -/

theorem isNameChar_of_isVariantChar {c : Char} (h : isVariantChar c = true) :
    isNameChar c = true := by
  rw [isNameChar, ← isVariantChar, h]
  rfl

theorem filter_eq_nil_of_forall_isNameChar {s : List Char} (h : ∀ c ∈ s, isNameChar c = true) :
    s.filter (!isNameChar ·) = [] := by
  rw [List.filter_eq_nil_iff]
  intro c hc
  rw [h c hc]
  exact Bool.false_ne_true

/-- But for the characters of words, a line is its frame. -/
theorem Entry.WellFormed.filter_reexport {entry : Entry} (h : entry.WellFormed) {name : String}
    (hname : name ∈ entry.imports) :
    (entry.target.reexport name).toList.filter (!isNameChar ·) =
      entry.target.frame.toList.filter (!isNameChar ·) := by
  have word := filter_eq_nil_of_forall_isNameChar (h.imports name hname).2
  cases ht : entry.target with
  | bare => simp only [Target.reexport_bare, Target.frame, String.toList_append, List.filter_append,
      word, String.toList_empty, List.filter_nil]
  | variant v =>
    have variant : v.toList.filter (!isNameChar ·) = [] := by
      apply filter_eq_nil_of_forall_isNameChar
      intro c hc
      have stored : v ∈ entry.target.variant? := by rw [ht]; rfl
      exact isNameChar_of_isVariantChar ((h.variant v stored).2 c hc)
    simp only [Target.reexport_variant, Target.frame, String.toList_append, List.filter_append,
      word, variant, String.toList_empty, List.filter_nil]

/-- The words of an entry bring nothing into the text of its module but words: it has a line for each
name, and the line is that of no words around the characters of the words. -/
structure Legible (entry : Entry) : Prop where
  length_lines : (lines entry.moduleSource).length = entry.imports.length
  imports : ∀ name ∈ entry.imports, name ≠ "" ∧ ∀ c ∈ name.toList, isNameChar c = true
  variant : ∀ v, entry.target.variant? = some v → v ≠ "" ∧ ∀ c ∈ v.toList, isVariantChar c = true
  framed : ∀ line ∈ lines entry.moduleSource,
    line.filter (!isNameChar ·) = entry.target.frame.toList.filter (!isNameChar ·)

theorem Entry.WellFormed.legible {entry : Entry} (h : entry.WellFormed) : Legible entry := by
  constructor
  case length_lines => rw [h.lines_moduleSource, List.length_map]
  case imports => exact h.imports
  case variant =>
    intro v hv
    exact h.variant v hv
  case framed =>
    intro line hline
    rw [h.lines_moduleSource] at hline
    obtain ⟨name, hname, rfl⟩ := List.mem_map.1 hline
    exact h.filter_reexport hname

/-! ### Generated texts have no statements -/

/-- Each opening brace of a text follows the word of an export. -/
def OpensExports (s : List Char) : Prop := ∀ x y, s = x ++ '\x7b' :: y → "export ".toList <:+ x

section OpensExports

variable {s t : List Char}

theorem OpensExports.of_not_mem (h : '\x7b' ∉ s) : OpensExports s := by
  rintro x y rfl
  exact absurd (by simp) h

theorem OpensExports.of_export (h : '\x7b' ∉ s) : OpensExports ("export \x7b".toList ++ s) := by
  intro x y hs
  have first : "export ".toList ++ '\x7b' :: s = x ++ '\x7b' :: y := by rw [← hs]; rfl
  have unbraced : '\x7b' ∉ "export ".toList := by decide
  obtain ⟨rfl, -⟩ := (List.append_cons_inj_of_notMem unbraced h).1 first
  exact List.suffix_refl _

theorem OpensExports.append (hs : OpensExports s) (ht : OpensExports t) :
    OpensExports (s ++ t) := by
  intro x y h
  obtain ⟨a, rfl, ha⟩ | ⟨a, rfl, ha⟩ := List.append_eq_append_iff.1 h
  · exact (ht a y ha).trans (List.suffix_append s a)
  · cases a with
    | nil => exact (ht [] y ha.symm).trans (List.nil_suffix)
    | cons c a =>
      obtain ⟨rfl, -⟩ := List.cons.inj ha
      exact hs x a rfl

/-- The brace of a statement follows another word. -/
theorem OpensExports.ne_opening_append {st : Statement} (hst : st.WellFormed)
    (h : OpensExports s) (u rest : List Char) : s ≠ u ++ (st.opening ++ rest) := by
  intro hs
  obtain ⟨w, hw⟩ := h (u ++ Statement.importWord ++ st.gapBeforeBrace) rest
    (by simp [hs, Statement.opening])
  -- Backwards, and without the blanks behind them, the texts go on with the two words.
  have back := congrArg (fun s => s.reverse.dropWhile isBlank) hw
  have statement : (u ++ Statement.importWord ++ st.gapBeforeBrace).reverse.dropWhile isBlank =
      Statement.importWord.reverse ++ u.reverse := by
    rw [List.reverse_append, List.reverse_append]
    refine dropWhile_isBlank_append (fun c hc => ?_) ?_
    · exact hst.gapBeforeBrace.2 c (List.mem_reverse.1 hc)
    · rintro c ⟨⟩
      decide
  rw [statement] at back
  simp [Statement.importWord, isBlank, blankRanges] at back

theorem OpensExports.scan_eq_nil {text : String} (h : OpensExports text.toList) :
    scan text = [] := by
  rw [List.eq_nil_iff_forall_not_mem]
  intro found hfound
  obtain ⟨u, v, st, rest, htext, hread, -⟩ := mem_scan_iff.1 hfound
  obtain ⟨hst, rfl⟩ := Statement.wellFormed_and_eq_of_read? hread
  rw [Statement.text_eq, List.append_assoc] at htext
  exact h.ne_opening_append hst u _ htext

end OpensExports

namespace Entry.WellFormed

variable {entry : Entry}

theorem opensExports_reexport (h : entry.WellFormed) {name : String} (hname : name ∈ entry.imports) :
    OpensExports (entry.target.reexport name).toList := by
  have hn : '\x7b' ∉ name.toList := h.not_mem_of_mem_imports (by decide) hname
  cases ht : entry.target with
  | bare =>
    apply OpensExports.of_not_mem
    simp [Target.reexport_bare, packageName, hn]
  | variant v =>
    have hv : '\x7b' ∉ v.toList := h.not_mem_of_target_eq (by decide) ht
    let rest := " default as " ++ name ++ " \x7d from 'maic/" ++ v ++ "/" ++ name ++ ".js';"
    have line : ((Target.variant v).reexport name).toList = "export \x7b".toList ++ rest.toList := by
      simp [Target.reexport_variant, packageName, rest]
    rw [line]
    exact .of_export (by simp [rest, hn, hv])

theorem opensExports_moduleSource (h : entry.WellFormed) :
    OpensExports entry.moduleSource.toList := by
  rw [moduleSource, String.toList_intercalate]
  refine intercalate_of_forall (.of_not_mem List.not_mem_nil) (fun _ _ => OpensExports.append)
    (.of_not_mem (by decide)) fun line hline => ?_
  simp only [List.mem_map] at hline
  obtain ⟨_, ⟨name, hname, rfl⟩, rfl⟩ := hline
  exact h.opensExports_reexport hname

end Entry.WellFormed

namespace Plugin

variable {plugin plugin' : Plugin}

/-- Stored entries that ask for something have the same text only if they ask for the same. -/
theorem moduleSource_eq_iff_of_stored (h : plugin.Reachable) (h' : plugin'.Reachable)
    {id id' : String} {entry entry' : Entry} (stored : plugin.registry.get? id = some entry)
    (stored' : plugin'.registry.get? id' = some entry') :
    Legible entry ∧ (entry.imports ≠ [] → entry'.imports ≠ [] →
      (entry.moduleSource = entry'.moduleSource ↔
        entry.target.variant? = entry'.target.variant? ∧ entry.imports = entry'.imports)) := by
  have wellFormed := h.wellFormed _ (Registry.get?_eq_some_iff_mem.1 stored)
  have wellFormed' := h'.wellFormed _ (Registry.get?_eq_some_iff_mem.1 stored')
  refine ⟨wellFormed.legible, fun hne hne' => ?_⟩
  constructor
  · intro same
    have again := wellFormed.ofModuleSource?_moduleSource hne
    rw [same, wellFormed'.ofModuleSource?_moduleSource hne'] at again
    obtain rfl := Option.some.inj again
    exact ⟨rfl, rfl⟩
  · rintro ⟨target, imports⟩
    rw [Entry.moduleSource, Entry.moduleSource, Target.variant?_inj.1 target, imports]

/-- Of two entries that lead to one module, one asks for a name of a variant and the other one for the
variant. -/
theorem moduleSource_eq_iff_of_two_runs :
    let plugin := ((start .silent).transform "import { index } from 'maic/v'" "u").plugin
    let first := ((start .silent).transform "import {a} from 'maic'" "u").plugin
    let plugin' := (first.transform "import {v as index,} from 'maic'" "w").plugin
    let entry : Entry := ⟨.variant "v", ["index"]⟩
    let entry' : Entry := ⟨.bare, ["v"]⟩
    plugin.Reachable ∧ plugin'.Reachable ∧ plugin.registry.get? "0000" = some entry ∧
      plugin'.registry.get? "0001" = some entry' ∧ entry.imports ≠ [] ∧ entry'.imports ≠ [] ∧
      Legible entry ∧ (entry.moduleSource = entry'.moduleSource ↔
        entry.target.variant? = entry'.target.variant? ∧ entry.imports = entry'.imports) := by
  intro plugin first plugin' entry entry'
  have reachable : plugin.Reachable := (Reachable.start .silent).transform _ _
  have reachable' : plugin'.Reachable := ((Reachable.start .silent).transform _ _).transform _ _
  have stored : plugin.registry.get? "0000" = some entry := by decide +kernel
  have stored' : plugin'.registry.get? "0001" = some entry' := by decide +kernel
  have faithful := moduleSource_eq_iff_of_stored reachable reachable' stored stored'
  exact ⟨reachable, reachable', stored, stored', by decide, by decide, faithful.1,
    faithful.2 (by decide) (by decide)⟩

/-- A plugin finds nothing to redirect in a module that a plugin serves. -/
theorem scan_load_eq_nil (h : plugin.Reachable) {name text : String}
    (hload : (plugin.load name).answer = some text) :
    scan text = [] ∧
      ∀ (other : Plugin) (unit : String), other.transform text unit = ⟨.ok none, other, []⟩ := by
  obtain ⟨id, entry, stored, rfl⟩ := exists_of_load_eq_some hload
  have wellFormed := h.wellFormed _ (Registry.get?_eq_some_iff_mem.1 stored)
  have none := wellFormed.opensExports_moduleSource.scan_eq_nil
  exact ⟨none, fun other unit => transform_of_scan_eq_nil other none unit⟩

/-- The words of the module are words of statements. -/
theorem scan_load_eq_nil_of_keywords :
    let source := "import { default, from as maic } from 'maic/import'"
    let plugin := ((start .silent).transform source "u").plugin
    let text := "export \x7b default as default \x7d from 'maic/import/default.js';\n" ++
      "export \x7b default as from \x7d from 'maic/import/from.js';"
    plugin.Reachable ∧ (plugin.load "\x000000/import").answer = some text ∧ scan text = [] ∧
      ∀ (other : Plugin) (unit : String), other.transform text unit = ⟨.ok none, other, []⟩ := by
  intro source plugin text
  have reachable : plugin.Reachable := (Reachable.start .silent).transform source "u"
  have load : (plugin.load "\x000000/import").answer = some text := by decide +kernel
  exact ⟨reachable, load, scan_load_eq_nil reachable load⟩

end Plugin

end IconImports
