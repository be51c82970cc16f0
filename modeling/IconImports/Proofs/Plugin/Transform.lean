import IconImports.Plugin
import IconImports.Proofs.List.Mapped
import IconImports.Proofs.Registry.Numbered

/-!
# What a transformation does

For a numbered registry, `transform_cases` lists all that `Plugin.transform` can do: there is
nothing to redirect, a list cannot be read, there is no room, or every statement is redirected. Only
in the last case is anything registered or logged, and then the new text is that of the segments of
the source with one identifier after the other in the places of the package names.
-/

namespace IconImports

/-- The text with the identifiers from number `start` on in the places of the package names. -/
def Segments.redirected (segments : Segments) (start : Nat) : List Char :=
  segments.textWith
    ((ModuleId.range start segments.statements.length).map fun id => id.text.toList)

theorem Segments.redirected_nil (tail : List Char) (start : Nat) :
    (mk [] tail).redirected start = tail := rfl

theorem Segments.redirected_cons (before : List Char) (st : Statement)
    (statements : List (List Char × Statement)) (tail : List Char) (start : Nat) :
    (mk ((before, st) :: statements) tail).redirected start =
      before ++ st.beforePackage ++ (ModuleId.ofIndex start).text.toList ++
        (st.afterPackage ++ (mk statements tail).redirected (start + 1)) := by
  simp [redirected, textWith, ModuleId.range_succ, Statement.textWith]

@[simp]
theorem Segments.length_matchesFrom (offset : Nat) (statements : List (List Char × Statement)) :
    (matchesFrom offset statements).length = statements.length := by
  induction statements generalizing offset with
  | nil => rfl
  | cons p statements ih => simp [matchesFrom, ih]

namespace Plugin

/-- The calls that tell a logger of new entries. -/
def registrations (logger : Logger) (entries : List (ModuleId × Entry)) (unit : String) :
    List LogCall :=
  if logger.isEnabled .debug then entries.map fun p => (Event.registered p.1 p.2 unit).call else []

theorem registrations_cons (logger : Logger) (id : ModuleId) (entry : Entry)
    (entries : List (ModuleId × Entry)) (unit : String) :
    registrations logger ((id, entry) :: entries) unit =
      registrations logger [(id, entry)] unit ++ registrations logger entries unit := by
  unfold registrations
  split <;> rfl

theorem registrationCalls_eq {registry : Registry} (hr : registry.Numbered)
    (hlt : registry.size < ModuleId.capacity) (logger : Logger) (entry : Entry) (unit : String) :
    registrationCalls ⟨registry.push entry, logger⟩ (ModuleId.ofIndex registry.size) unit =
      registrations logger [(ModuleId.ofIndex registry.size, entry)] unit := by
  have found : (registry.push entry).get? (ModuleId.ofIndex registry.size).text = some entry := by
    rw [Registry.get?_eq_some_iff_mem, hr.toList_push hlt]
    simp
  simp only [registrationCalls, registrations, found]
  rfl

theorem splice?_eq {source : String} {statements : List (List Char × Statement)}
    {passed pending tail : List Char} {registry : Registry} {entries : List Entry}
    (h : source.toList = passed ++ (pending ++ (Segments.mk statements tail).text))
    (hr : registry.Numbered) (hlen : entries.length = statements.length)
    (hle : registry.size + entries.length ≤ ModuleId.capacity) (logger : Logger)
    (unit output : String) :
    splice? ⟨registry, logger⟩ source unit (byteLength passed) output
        ((Segments.matchesFrom (byteLength (passed ++ pending)) statements).zip entries) =
      some ⟨.ok (output ++
          String.ofList (pending ++ (Segments.mk statements tail).redirected registry.size)),
        ⟨registry.append entries, logger⟩,
        registrations logger ((ModuleId.range registry.size entries.length).zip entries) unit⟩ := by
  induction statements generalizing registry entries passed pending output with
  | nil =>
    obtain rfl := List.length_eq_zero_iff.1 hlen
    rw [List.zip_nil_right, splice?_nil h]
    simp [registrations, Registry.append, Segments.text, Segments.redirected_nil]
  | cons p statements ih =>
    obtain ⟨before, st⟩ := p
    obtain ⟨entry, entries, rfl⟩ := List.exists_cons_of_length_eq_add_one hlen
    simp only [List.length_cons, Nat.add_right_cancel_iff] at hlen hle
    have hlt : registry.size < ModuleId.capacity := by omega
    have size := hr.size_push hlt entry
    rw [splice?_cons h, Registry.nextId_eq hlt]
    dsimp only
    rw [← Registry.push.eq_1, ih ?text (hr.push hlt entry) hlen (by omega),
      registrationCalls_eq hr hlt, Option.map_some, size, Segments.redirected_cons,
      List.length_cons, ModuleId.range_succ, List.zip_cons_cons,
      registrations_cons logger _ _ (List.zip _ _), Registry.append_cons]
    · simp [String.append_assoc]
    case text => simp [h, Segments.text_cons]

/-- A source whose lists can be read is redirected to its end, if there is room for its entries. -/
theorem splice?_scan {plugin : Plugin} (hr : plugin.registry.Numbered) {source unit : String}
    {entries : List Entry} (hm : (scan source).mapM (·.entry unit) = .ok entries)
    (hle : plugin.registry.size + entries.length ≤ ModuleId.capacity) :
    splice? plugin source unit 0 "" ((scan source).zip entries) =
      some ⟨.ok (String.ofList ((Segments.ofText source.toList).redirected plugin.registry.size)),
        ⟨plugin.registry.append entries, plugin.logger⟩,
        registrations plugin.logger
          ((ModuleId.range plugin.registry.size entries.length).zip entries) unit⟩ := by
  have text : source.toList = [] ++ ([] ++ (Segments.ofText source.toList).text) := by simp
  have length := (length_of_mapM_eq_ok hm).trans (Segments.length_matchesFrom ..)
  have spliced := splice?_eq text hr length hle plugin.logger unit ""
  rwa [String.empty_append] at spliced

theorem transform_of_transform?_eq {plugin : Plugin} {source unit : String}
    {outcome : Outcome (Except RedirectError (Option String))}
    (h : transform? plugin source unit = some outcome) :
    plugin.transform source unit = outcome := by
  simp only [transform, h, Option.get_some]

theorem transform_of_scan_eq_nil (plugin : Plugin) {source : String} (h : scan source = [])
    (unit : String) : plugin.transform source unit = ⟨.ok none, plugin, []⟩ :=
  transform_of_transform?_eq (by simp [transform?, h])

theorem transform_of_mapM_eq_error (plugin : Plugin) {source unit : String} {e : RedirectError}
    (hf : scan source ≠ []) (hm : (scan source).mapM (·.entry unit) = .error e) :
    plugin.transform source unit = ⟨.error e, plugin, []⟩ :=
  transform_of_transform?_eq (by simp [transform?, hf, hm])

theorem transform_of_capacity_lt (plugin : Plugin) {source unit : String} {entries : List Entry}
    (hf : scan source ≠ []) (hm : (scan source).mapM (·.entry unit) = .ok entries)
    (hgt : ModuleId.capacity < plugin.registry.size + entries.length) :
    plugin.transform source unit = ⟨.error .idSpaceExhausted, plugin, []⟩ :=
  transform_of_transform?_eq (by simp [transform?, hf, hm, Registry.ensureCapacity, hgt])

theorem transform_of_le_capacity {plugin : Plugin} (hr : plugin.registry.Numbered)
    {source unit : String} {entries : List Entry} (hf : scan source ≠ [])
    (hm : (scan source).mapM (·.entry unit) = .ok entries)
    (hle : plugin.registry.size + entries.length ≤ ModuleId.capacity) :
    plugin.transform source unit =
      ⟨.ok (some (String.ofList ((Segments.ofText source.toList).redirected plugin.registry.size))),
        ⟨plugin.registry.append entries, plugin.logger⟩,
        registrations plugin.logger
            ((ModuleId.range plugin.registry.size entries.length).zip entries) unit ++
          [(Event.redirected entries.length unit).call]⟩ := by
  have hf' : (scan source).isEmpty = false := by simpa using hf
  apply transform_of_transform?_eq
  simp only [transform?, hf', hm, Registry.ensureCapacity, if_neg (Nat.not_lt.2 hle),
    splice?_scan hr hm hle, ← length_of_mapM_eq_ok hm]
  rfl

/-- All that a transformation can do. -/
theorem transform_cases {plugin : Plugin} (hr : plugin.registry.Numbered) (source unit : String) :
    (scan source = [] ∧ plugin.transform source unit = ⟨.ok none, plugin, []⟩) ∨
    (∃ e, scan source ≠ [] ∧ (scan source).mapM (·.entry unit) = .error e ∧
      plugin.transform source unit = ⟨.error e, plugin, []⟩) ∨
    (∃ entries, scan source ≠ [] ∧ (scan source).mapM (·.entry unit) = .ok entries ∧
      ModuleId.capacity < plugin.registry.size + entries.length ∧
      plugin.transform source unit = ⟨.error .idSpaceExhausted, plugin, []⟩) ∨
    ∃ entries, scan source ≠ [] ∧ (scan source).mapM (·.entry unit) = .ok entries ∧
      plugin.registry.size + entries.length ≤ ModuleId.capacity ∧
      plugin.transform source unit =
        ⟨.ok (some (String.ofList ((Segments.ofText source.toList).redirected plugin.registry.size))),
          ⟨plugin.registry.append entries, plugin.logger⟩,
          registrations plugin.logger
              ((ModuleId.range plugin.registry.size entries.length).zip entries) unit ++
            [(Event.redirected entries.length unit).call]⟩ := by
  by_cases hf : scan source = []
  · exact .inl ⟨hf, transform_of_scan_eq_nil plugin hf unit⟩
  · cases hm : (scan source).mapM (·.entry unit) with
    | error e => exact .inr (.inl ⟨e, hf, rfl, transform_of_mapM_eq_error plugin hf hm⟩)
    | ok entries =>
      by_cases hgt : ModuleId.capacity < plugin.registry.size + entries.length
      · exact .inr (.inr (.inl ⟨entries, hf, rfl, hgt, transform_of_capacity_lt plugin hf hm hgt⟩))
      · have hle := Nat.not_lt.1 hgt
        exact .inr (.inr (.inr ⟨entries, hf, rfl, hle, transform_of_le_capacity hr hf hm hle⟩))

end Plugin

end IconImports
