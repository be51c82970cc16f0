import IconImports.Proofs.Plugin.Run
import IconImports.Proofs.Scan.Append

/-!
# Transformations of a text in two parts

Where no statement goes through the place at which a text is parted, the parts can be transformed one
after the other. The statements of the second part then ask for the same, whatever its unit is
called, and their identifiers go on where those of the first part stopped
(`Segments.redirected_append`).

The main statement: `transform_append`.
-/

namespace IconImports

/-! ### What the parts ask for -/

namespace Segments

theorem redirected_behind (front : List Char) (segments : Segments) (start : Nat) :
    (segments.behind front).redirected start = front ++ segments.redirected start := by
  obtain ⟨statements, tail⟩ := segments
  cases statements with
  | nil => rfl
  | cons p statements =>
    obtain ⟨before, st⟩ := p
    rw [behind, redirected_cons, redirected_cons]
    simp only [List.append_assoc]

theorem redirected_append (x y : Segments) (start : Nat) :
    (x ++ y).redirected start =
      x.redirected start ++ y.redirected (start + x.statements.length) := by
  obtain ⟨statements, tail⟩ := x
  induction statements generalizing start with
  | nil => exact redirected_behind tail y start
  | cons p statements ih =>
    obtain ⟨before, st⟩ := p
    let others := mk statements tail ++ y
    have whole : (mk ((before, st) :: statements) tail ++ y).redirected start =
        before ++ st.beforePackage ++ (ModuleId.ofIndex start).text.toList ++
          (st.afterPackage ++ others.redirected (start + 1)) :=
      redirected_cons before st others.statements others.tail start
    rw [whole, ih, redirected_cons, List.length_cons, Nat.add_right_comm start 1,
      Nat.add_assoc start]
    simp only [List.append_assoc]

theorem ofText_of_scan_eq_nil {source : String} (h : scan source = []) :
    ofText source.toList = ⟨[], source.toList⟩ := by
  have length := length_matchesFrom 0 (ofText source.toList).statements
  rw [← scan, h, List.length_nil, eq_comm, List.length_eq_zero_iff] at length
  have text := text_ofText source.toList
  generalize ofText source.toList = segments at length text
  obtain ⟨statements, tail⟩ := segments
  obtain rfl : statements = [] := length
  rw [← text]
  rfl

end Segments

theorem mapM_entry_of_eq_ok {found : List Match} {unit : String} {entries : List Entry}
    (h : found.mapM (·.entry unit) = .ok entries) (unit' : String) :
    found.mapM (·.entry unit') = .ok entries := by
  rw [mapM_eq_ok_iff_forall₂] at h ⊢
  exact h.imp fun _ _ he => Match.entry_eq_ok_iff.2 (Match.entry_eq_ok_iff.1 he)

/-- What a text in two parts asks for is what its parts ask for, whatever their units are called. -/
theorem mapM_entry_scan_append {a b unit : String} (h : Statement.Apart a.toList b.toList)
    {entries : List Entry} (hm : (scan (a ++ b)).mapM (·.entry unit) = .ok entries)
    (unit' unit'' : String) :
    ∃ x y, (scan a).mapM (·.entry unit') = .ok x ∧ (scan b).mapM (·.entry unit'') = .ok y ∧
      x ++ y = entries := by
  rw [scan_append_of_apart h, mapM_append_eq_ok_iff, List.mapM_map] at hm
  obtain ⟨x, y, hx, hy, whole⟩ := hm
  have hy : (scan b).mapM (·.entry unit) = .ok y := hy
  exact ⟨x, y, mapM_entry_of_eq_ok hx unit', mapM_entry_of_eq_ok hy unit'', whole⟩

namespace Plugin

variable {plugin : Plugin} {a b source unit : String}

/-- What a transformation makes of a text for whose entries there is room. -/
theorem answer_transform_of_le (hr : plugin.registry.Numbered) {entries : List Entry}
    (hm : (scan source).mapM (·.entry unit) = .ok entries)
    (hle : plugin.registry.size + entries.length ≤ ModuleId.capacity) :
    ∃ code, (plugin.transform source unit).answer = .ok code ∧ code.getD source =
      String.ofList ((Segments.ofText source.toList).redirected plugin.registry.size) := by
  by_cases hf : scan source = []
  · rw [transform_of_scan_eq_nil plugin hf, Segments.ofText_of_scan_eq_nil hf]
    exact ⟨none, rfl, String.ofList_toList.symm⟩
  · rw [transform_of_le_capacity hr hf hm hle]
    exact ⟨_, rfl, rfl⟩

/-- Transforming a text in two parts, through whose boundary no statement goes, is transforming the
first part and then the second one. -/
theorem transform_append (h : plugin.Reachable)
    (hab : ∀ m ∈ scan (a ++ b), ¬(m.range.start < a.utf8ByteSize ∧ a.utf8ByteSize < m.range.stop)) :
    scan (a ++ b) = scan a ++ (scan b).map (·.shift a.utf8ByteSize) ∧
      ∀ unit unit' unit'' code,
        let whole := plugin.transform (a ++ b) unit
        let first := plugin.transform a unit'
        let second := first.plugin.transform b unit''
        whole.answer = .ok code → second.plugin = whole.plugin ∧
          ∃ code' code'', first.answer = .ok code' ∧ second.answer = .ok code'' ∧
            code'.getD a ++ code''.getD b = code.getD (a ++ b) := by
  have apart := apart_of_scan hab
  refine ⟨scan_append_of_apart apart, fun unit unit' unit'' code => ?_⟩
  intro whole first second hcode
  have hr := h.numbered
  obtain ⟨entries, hm, hle, hwhole⟩ := plugin_transform_of_eq_ok hr hcode
  obtain ⟨x, y, hx, hy, rfl⟩ := mapM_entry_scan_append apart hm unit' unit''
  rw [List.length_append] at hle
  have hfirst : first.plugin = ⟨plugin.registry.append x, plugin.logger⟩ :=
    plugin_transform_of_le hr hx (by omega)
  have hr' : first.plugin.registry.Numbered := numbered_transform hr a unit'
  have size : first.plugin.registry.size = plugin.registry.size + x.length := by
    rw [hfirst]
    exact hr.size_append (by omega)
  have hsecond : second.plugin = ⟨first.plugin.registry.append y, first.plugin.logger⟩ :=
    plugin_transform_of_le hr' hy (by omega)
  obtain ⟨code', hcode', text'⟩ := answer_transform_of_le hr hx (by omega)
  obtain ⟨code'', hcode'', text''⟩ := answer_transform_of_le hr' hy (by omega)
  obtain ⟨_, same, text⟩ := answer_transform_of_le hr hm (by rwa [List.length_append])
  obtain rfl := Except.ok.inj (hcode.symm.trans same)
  refine ⟨?_, code', code'', hcode', hcode'', ?_⟩
  · rw [hsecond, hfirst, hwhole, Registry.append_append]
  · have length : x.length = (Segments.ofText a.toList).statements.length :=
      (length_of_mapM_eq_ok hx).trans (Segments.length_matchesFrom ..)
    rw [text, text', text'', size, length, ← String.ofList_append, ← Segments.redirected_append,
      ← Segments.ofText_append apart, String.toList_append]

/-- The first part ends with an import that opens, and the second one starts with another. -/
theorem transform_append_second_source :
    let plugin := ((start .silent).transform "import { a } from 'maic/v'" "first").plugin
    let a := "'é' import {b as c} from 'maic';import \x7b "
    let b := "import {d,} from 'maic/v';;"
    let whole := plugin.transform (a ++ b) "whole"
    let first := plugin.transform a "part"
    let second := first.plugin.transform b "part"
    let code := some "'é' import {b as c} from '0001';import \x7b import {d,} from '0002/v';;"
    plugin.Reachable ∧
      (∀ m ∈ scan (a ++ b), ¬(m.range.start < a.utf8ByteSize ∧ a.utf8ByteSize < m.range.stop)) ∧
      scan (a ++ b) = scan a ++ (scan b).map (·.shift a.utf8ByteSize) ∧
      whole.answer = .ok code ∧ second.plugin = whole.plugin ∧
      ∃ code' code'', first.answer = .ok code' ∧ second.answer = .ok code'' ∧
        code'.getD a ++ code''.getD b = code.getD (a ++ b) := by
  intro plugin a b whole first second code
  have reachable := (Reachable.start .silent).transform "import { a } from 'maic/v'" "first"
  have apart : ∀ m ∈ scan (a ++ b),
      ¬(m.range.start < a.utf8ByteSize ∧ a.utf8ByteSize < m.range.stop) := by decide +kernel
  have hcode : whole.answer = .ok code := by decide +kernel
  have appended := transform_append reachable apart
  exact ⟨reachable, apart, appended.1, hcode, appended.2 "whole" "part" "part" code hcode⟩

end Plugin

end IconImports
