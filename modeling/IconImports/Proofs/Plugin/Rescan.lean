import IconImports.Proofs.Plugin.Reexports
import IconImports.Proofs.Plugin.Splice
import IconImports.Proofs.Scan.Cut

/-!
# Redirected texts are not redirected again

An identifier in the place of the name of the package neither opens a statement nor completes one:
no statement opens within a redirected one, and one that opens before it would have stood in the
source. So a scan of a redirected text finds the statements whose identifier is the name of the
package (`scan_redirected`), which is so for one number only.

The main statement: `scan_transform`.
-/

namespace IconImports

/-! ### Where no statement is read -/

namespace Statement

variable {st : Statement} {token : List Char}

theorem noneIn_textWith (hst : st.WellFormed) (ht : '\x7b' ∉ token)
    (hlen : token.length = packageWord.length) (hne : token ≠ packageWord) (rest : List Char) :
    NoneIn (st.textWith token) rest := by
  intro u v hv hv'
  by_cases hu : u = []
  · subst hu
    rw [List.nil_append] at hv
    rw [← hv]
    exact read?_textWith_append hst hlen hne rest
  · have text : st.textWith token ++ rest = u ++ (v ++ rest) := by rw [hv, List.append_assoc]
    apply read?_eq_none_of_within hst ht text hu
    have := List.length_pos_iff.2 hv'
    rw [hv, List.length_append]
    omega

end Statement

theorem ModuleId.not_mem_ofIndex (i : Nat) : '\x7b' ∉ (ofIndex i).text.toList := by
  intro h
  rw [toList_text_ofIndex] at h
  exact absurd (Base36.mem_digits_of_mem_numeral h) (by decide)

/-! ### What is read again -/

namespace Segments

/-- A redirected text starts as the text did. -/
theorem head?_redirected (segments : Segments) (start : Nat) :
    (segments.redirected start).head? = segments.text.head? := by
  obtain ⟨statements, tail⟩ := segments
  cases statements with
  | nil => rfl
  | cons p statements =>
    obtain ⟨before, st⟩ := p
    rw [redirected_cons, text_cons]
    cases before <;> rfl

/-- The statements whose identifiers, from number `start` on, are the name of the package. -/
def keeping (start : Nat) (found : List Match) : List Match :=
  ((found.zip (ModuleId.range start found.length)).filter fun p => p.2.text = packageName).map
    Prod.fst

theorem keeping_cons (start : Nat) (m : Match) (found : List Match) :
    keeping start (m :: found) =
      if (ModuleId.ofIndex start).text = packageName then m :: keeping (start + 1) found
      else keeping (start + 1) found := by
  rw [keeping, List.length_cons, ModuleId.range_succ, List.zip_cons_cons, List.filter_cons]
  by_cases h : (ModuleId.ofIndex start).text = packageName <;> simp [h, keeping]

/-- In a redirected text, what is found are the statements that keep the name of the package. -/
theorem matchesFrom_cut_redirected {s : List Char} {segments : Segments} (h : Cuts s segments)
    (start : Nat) (a before : List Char) :
    matchesFrom (byteLength a) (cut before (segments.redirected start)).statements =
      keeping start (matchesFrom (byteLength (a ++ before.reverse)) segments.statements) := by
  induction h generalizing start a before with
  | @tail s none =>
    have passed := cut_append none before
    rw [List.append_nil, cut_nil] at passed
    rw [redirected_nil, passed]
    rfl
  | @statement front rest st segments none read others ih =>
    have hst := (Statement.wellFormed_and_eq_of_read? read).1
    let token := (ModuleId.ofIndex start).text.toList
    have text : (mk ((front, st) :: segments.statements) segments.tail).redirected start =
        front ++ (st.textWith token ++ segments.redirected (start + 1)) := by
      simp [redirected_cons, Statement.textWith, token]
    rw [text, cut_append (none.textWith hst _ _), matchesFrom_cons, keeping_cons]
    by_cases hid : (ModuleId.ofIndex start).text = packageName
    · have same : st.textWith token = st.text := by
        rw [Statement.text, Statement.packageWord_eq, ← hid]
      have again : Statement.read? (st.text ++ segments.redirected (start + 1)) =
          some (st, segments.redirected (start + 1)) := by
        rw [Statement.read?_text_append_eq_some_iff hst] at read ⊢
        rwa [head?_redirected, others.text_eq]
      rw [same, cut_of_read?_eq_some again, if_pos hid, matchesFrom_cons, ih]
      simp
    · have other : token ≠ Statement.packageWord := by
        rw [Statement.packageWord_eq, ne_eq, String.toList_inj]
        exact hid
      have length : token.length = Statement.packageWord.length := by
        simp only [token, ModuleId.toList_text_ofIndex, Base36.length_numeral]
        rfl
      rw [if_neg hid, cut_append (Statement.noneIn_textWith hst (ModuleId.not_mem_ofIndex start)
        length other _), ih]
      simp [st.byteLength_textWith]

theorem keeping_eq_nil_iff {start : Nat} {found : List Match}
    (hle : start + found.length ≤ ModuleId.capacity) :
    keeping start found = [] ↔ ¬(start ≤ 1040052 ∧ 1040052 < start + found.length) := by
  induction found generalizing start with
  | nil =>
    simp only [keeping, List.zip_nil_left, List.filter_nil, List.map_nil, true_iff, List.length_nil]
    omega
  | cons m found ih =>
    rw [List.length_cons] at hle ⊢
    have hlt : start < ModuleId.capacity := by omega
    have others : keeping (start + 1) found = [] ↔
        ¬(start + 1 ≤ 1040052 ∧ 1040052 < start + 1 + found.length) := ih (by omega)
    rw [keeping_cons]
    by_cases hid : (ModuleId.ofIndex start).text = packageName
    · have number := (ModuleId.text_ofIndex_eq_packageName_iff hlt).1 hid
      rw [if_pos hid]
      simp only [reduceCtorEq, false_iff, Classical.not_not]
      omega
    · have number := mt (ModuleId.text_ofIndex_eq_packageName_iff hlt).2 hid
      rw [if_neg hid, others]
      omega

end Segments

theorem scan_redirected {source out : String} {start : Nat}
    (h : out.toList = (Segments.ofText source.toList).redirected start) :
    scan out = Segments.keeping start (scan source) := by
  rw [scan, h]
  exact Segments.matchesFrom_cut_redirected (Segments.cuts_ofText _) start [] []

example : (Segments.keeping 1040051 (scan "import {a} from 'maic'; import {b} from 'maic/v'")).map
    (·.content) = ["b"] := by decide +kernel

namespace Plugin

variable {plugin : Plugin} {source unit out : String}

theorem scan_eq_nil_iff :
    scan source = [] ↔
      ∀ (plugin : Plugin) unit, plugin.transform source unit = ⟨.ok none, plugin, []⟩ := by
  constructor
  · intro h plugin unit
    exact transform_of_scan_eq_nil plugin h unit
  · intro h
    have none := congrArg Outcome.answer (h (start .silent) "")
    have hr : (start .silent).registry.Numbered := Registry.numbered_empty
    obtain ⟨hf, -⟩ | ⟨e, -, -, ht⟩ | ⟨entries, -, -, -, ht⟩ | ⟨entries, -, -, -, ht⟩ :=
      transform_cases hr source ""
    · exact hf
    · rw [ht] at none
      cases none
    · rw [ht] at none
      cases none
    · rw [ht] at none
      cases none

/-- In a text that a plugin has redirected, the only statement that is found has the identifier that
is the name of the package; without that one, no plugin redirects anything in the text. -/
theorem scan_transform (h : plugin.Reachable)
    (hout : (plugin.transform source unit).answer = .ok (some out)) :
    let later := (plugin.transform source unit).plugin
    let allocated := (later.registry.toList.drop plugin.registry.size).map Prod.fst
    scan out = (((scan source).zip allocated).filter fun p => p.2.text = "maic").map Prod.fst ∧
      ((∀ (other : Plugin) unit', other.transform out unit' = ⟨.ok none, other, []⟩) ↔
        ¬(plugin.registry.size ≤ 1040052 ∧ 1040052 < later.registry.size)) := by
  have hr := h.numbered
  obtain ⟨entries, -, hm, hle, code, hplugin⟩ := transform_of_answer_eq_some hr hout
  have length : entries.length = (scan source).length := length_of_mapM_eq_ok hm
  have again := scan_redirected code
  rw [hplugin]
  constructor
  · have allocated :
        ((plugin.registry.append entries).toList.drop plugin.registry.size).map Prod.fst =
          ModuleId.range plugin.registry.size (scan source).length := by
      rw [hr.toList_append hle, ← Registry.length_toList, List.drop_left,
        List.map_fst_zip (by simp), Registry.length_toList, length]
    rw [allocated]
    exact again
  · rw [← scan_eq_nil_iff, again, Segments.keeping_eq_nil_iff (by omega), hr.size_append hle,
      length]

/-- One statement opens within braces that are not closed, and one is closed by a semicolon. -/
theorem scan_transform_second_source :
    let plugin := ((start .silent).transform "import { a } from 'maic/v'" "first").plugin
    let source := "import \x7b import {from} from 'maic' import\n{ b, } from \"maic/import';;"
    let out := "import \x7b import {from} from '0001' import\n{ b, } from \"0002/import';;"
    let later := (plugin.transform source "second").plugin
    let allocated := (later.registry.toList.drop plugin.registry.size).map Prod.fst
    plugin.Reachable ∧ (plugin.transform source "second").answer = .ok (some out) ∧
      allocated = [⟨"0001"⟩, ⟨"0002"⟩] ∧
      scan out = (((scan source).zip allocated).filter fun p => p.2.text = "maic").map Prod.fst ∧
      ((∀ (other : Plugin) unit', other.transform out unit' = ⟨.ok none, other, []⟩) ↔
        ¬(plugin.registry.size ≤ 1040052 ∧ 1040052 < later.registry.size)) := by
  have reachable := (Reachable.start .silent).transform "import { a } from 'maic/v'" "first"
  exact ⟨reachable, by decide +kernel, by decide +kernel,
    scan_transform reachable (by decide +kernel)⟩

end Plugin

end IconImports
