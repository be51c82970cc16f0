import IconImports.Proofs.ImportList.Read
import IconImports.Proofs.Plugin.Run

/-!
# Which entries are stored

The entries of a reachable plugin are those that statements ask for (`Reachable.asked`).

An entry is `WellFormed` if its names and its variant are words: none is empty, and each is made of
the characters that names and variants are made of. What a statement asks for is well formed
(`wellFormed_entry`), so every entry of a reachable plugin is (`Reachable.wellFormed`).
-/

namespace IconImports

/-- The names and the variant are words. -/
structure Entry.WellFormed (entry : Entry) : Prop where
  imports : ∀ name ∈ entry.imports, name ≠ "" ∧ ∀ c ∈ name.toList, isNameChar c = true
  variant : ∀ v ∈ entry.target.variant?, v ≠ "" ∧ ∀ c ∈ v.toList, isVariantChar c = true

section WellFormed

variable {entry : Entry} {c : Char}

theorem Entry.WellFormed.not_mem_of_mem_imports (h : entry.WellFormed) (hc : isNameChar c = false)
    {name : String} (hname : name ∈ entry.imports) : c ∉ name.toList := by
  intro hmem
  rw [(h.imports name hname).2 c hmem] at hc
  cases hc

theorem Entry.WellFormed.not_mem_of_target_eq (h : entry.WellFormed) (hc : isVariantChar c = false)
    {v : String} (hv : entry.target = .variant v) : c ∉ v.toList := by
  intro hmem
  have variant : v ∈ entry.target.variant? := by
    rw [hv]
    rfl
  rw [(h.variant v variant).2 c hmem] at hc
  cases hc

end WellFormed

theorem Match.wellFormed_entry {source unit : String} {found : Match} (h : found ∈ scan source)
    {entry : Entry} (he : found.entry unit = .ok entry) : entry.WellFormed := by
  obtain ⟨names, hnames, rfl⟩ := Match.entry_eq_ok_iff.1 he
  refine ⟨isNameChar_of_importNames hnames, fun v hv => ?_⟩
  obtain ⟨st, hst, start, rfl⟩ := exists_matchAt_of_mem_scan h
  obtain ⟨hv, hne⟩ := Target.variant?_ofVariant_eq_some_iff.1 hv
  obtain ⟨w, hw, rfl⟩ := Option.map_eq_some_iff.1 hv
  refine ⟨hne, ?_⟩
  rw [String.toList_ofList]
  exact (hst.variant w hw).2

namespace Plugin

/-- What a statement of some source asks for. -/
def Asked (entry : Entry) : Prop :=
  ∃ source unit, ∃ found ∈ scan source, found.entry unit = .ok entry

theorem asked_perform {plugin : Plugin} (hr : plugin.registry.Numbered)
    (h : ∀ p ∈ plugin.registry.toList, Asked p.2) (call : Call) :
    ∀ p ∈ (plugin.perform call).plugin.registry.toList, Asked p.2 := by
  obtain hp | ⟨source, unit, entries, -, hm, hle, hp⟩ := plugin_perform hr call
  · rwa [hp]
  · rw [hp]
    intro p hmem
    obtain hold | hnew := hr.mem_toList_append hle hmem
    · exact h p hold
    · exact ⟨source, unit, exists_of_mem_of_mapM_eq_ok hm hnew⟩

theorem Reachable.asked {plugin : Plugin} (h : plugin.Reachable) :
    ∀ p ∈ plugin.registry.toList, Asked p.2 := by
  induction h with
  | start logger => exact List.forall_mem_nil _
  | perform call h ih => exact asked_perform h.numbered ih call

theorem Reachable.wellFormed {plugin : Plugin} (h : plugin.Reachable) :
    ∀ p ∈ plugin.registry.toList, p.2.WellFormed := by
  intro p hp
  obtain ⟨source, unit, found, hfound, he⟩ := h.asked p hp
  exact Match.wellFormed_entry hfound he

end Plugin

end IconImports
