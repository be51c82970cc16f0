import IconImports.Proofs.Plugin.Run
import IconImports.Proofs.Scan.Within
import Mathlib.Algebra.Group.Nat.Defs

/-!
# Slices of a source

A slice of a text is missing if its span is reversed, or if one of its ends is no place between two
characters (`isSome_slice?_iff`). Redirecting the imports of a source copies the parts of the source
around the package names, which are the slices of its `copiedSpans`, and goes through exactly if none
of them is missing (`isSome_splice?_iff`). For matches that stand in the source one behind the other
none is (`isSome_slice?_of_mem_copiedSpans`), and so stand the matches of a scan.

`run?` is a run that is broken off where a slice is missing; no run is (`run?_eq_some`).

The main statement: `transform_slices`.
-/

namespace IconImports

/-- The parts of a source of `size` bytes that are copied from byte `cursor` on, when the package names
of the statements are left out. -/
def copiedSpans (size cursor : Nat) : List Match → List Span
  | [] => [⟨cursor, size⟩]
  | m :: found => ⟨cursor, m.package.start⟩ :: copiedSpans size m.package.stop found

theorem isSome_slice?_of_mem_copiedSpans {source : String} {found : List Match} {cursor : Nat}
    (hcursor : (String.Pos.Raw.mk cursor).IsValid source) (within : ∀ m ∈ found, m.Within source)
    (hle : ∀ m ∈ found, cursor ≤ m.range.start)
    (ordered : found.Pairwise fun m m' => m.range.stop ≤ m'.range.start) :
    ∀ span ∈ copiedSpans source.utf8ByteSize cursor found, (slice? source span).isSome := by
  induction found generalizing cursor with
  | nil =>
    rw [copiedSpans, List.forall_mem_singleton, isSome_slice?_iff]
    exact ⟨hcursor, String.Pos.Raw.isValid_rawEndPos, hcursor.le_utf8ByteSize⟩
  | cons m found ih =>
    obtain ⟨hm, within⟩ := List.forall_mem_cons.1 within
    obtain ⟨hfirst, -⟩ := List.forall_mem_cons.1 hle
    obtain ⟨behind, ordered⟩ := List.pairwise_cons.1 ordered
    have start := hm.boundaries m.package.start (by simp)
    have stop := hm.boundaries m.package.stop (by simp)
    rw [copiedSpans, List.forall_mem_cons, isSome_slice?_iff]
    refine ⟨⟨hcursor, start, ?_⟩, ih stop within ?_ ordered⟩
    · exact Nat.le_trans hfirst (Nat.le_of_lt hm.start_lt)
    · intro m' hm'
      exact Nat.le_trans hm.stop_le (behind m' hm')

namespace Plugin

variable {plugin : Plugin} {source unit : String}

theorem isSome_splice?_iff {found : List Match} {entries : List Entry}
    (hr : plugin.registry.Numbered) (hlen : entries.length = found.length)
    (hle : plugin.registry.size + entries.length ≤ ModuleId.capacity) {cursor : Nat}
    {output : String} :
    (splice? plugin source unit cursor output (found.zip entries)).isSome ↔
      ∀ span ∈ copiedSpans source.utf8ByteSize cursor found, (slice? source span).isSome := by
  induction found generalizing plugin entries cursor output with
  | nil =>
    rw [List.zip_nil_left, splice?, copiedSpans, List.forall_mem_singleton]
    cases slice? source ⟨cursor, source.utf8ByteSize⟩ <;> rfl
  | cons m found ih =>
    obtain ⟨entry, entries, rfl⟩ := List.exists_cons_of_length_eq_add_one hlen
    simp only [List.length_cons, Nat.add_right_cancel_iff] at hlen hle
    have hlt : plugin.registry.size < ModuleId.capacity := by omega
    have room : (plugin.registry.push entry).size + entries.length ≤ ModuleId.capacity := by
      rw [hr.size_push hlt]
      omega
    rw [List.zip_cons_cons, splice?, copiedSpans, List.forall_mem_cons]
    simp only [Registry.nextId_eq hlt]
    cases slice? source ⟨cursor, m.package.start⟩ with
    | none => simp
    | some passed =>
      let next : Plugin := ⟨plugin.registry.push entry, plugin.logger⟩
      let copied := output ++ passed ++ (ModuleId.ofIndex plugin.registry.size).text
      have rest : (next.splice? source unit m.package.stop copied (found.zip entries)).isSome ↔ _ :=
        ih (hr.push hlt entry) hlen room
      rw [← rest]
      change Option.isSome (Option.bind (next.splice? source unit m.package.stop copied _) _) ↔ _
      cases next.splice? source unit m.package.stop copied (found.zip entries) <;> simp

/-! ### Runs that can be broken off -/

/-- What a call leads to, unless a slice is missing. -/
def perform? (plugin : Plugin) : Call → Option (Outcome Answer)
  | .transform source unit => (plugin.transform? source unit).map (·.map .transformed)
  | .resolve specifier => some ((plugin.resolve specifier).map .resolved)
  | .load name => some ((plugin.load name).map .loaded)

/-- What a run leads to, unless a slice is missing in one of its calls. -/
def run? (plugin : Plugin) : List Call → Option (Outcome (List Answer))
  | [] => some ⟨[], plugin, []⟩
  | call :: calls => do
    let first ← plugin.perform? call
    let others ← first.plugin.run? calls
    return ⟨first.answer :: others.answer, others.plugin, first.calls ++ others.calls⟩

theorem transform?_eq_some (plugin : Plugin) (source unit : String) :
    plugin.transform? source unit = some (plugin.transform source unit) :=
  (Option.some_get _).symm

theorem perform?_eq_some (plugin : Plugin) (call : Call) :
    plugin.perform? call = some (plugin.perform call) := by
  cases call with
  | transform source unit =>
    rw [perform?, transform?_eq_some]
    rfl
  | resolve specifier => rfl
  | load name => rfl

theorem run?_eq_some (plugin : Plugin) (calls : List Call) :
    plugin.run? calls = some (plugin.run calls) := by
  induction calls generalizing plugin with
  | nil => rfl
  | cons call calls ih =>
    rw [run?, perform?_eq_some, Option.bind_eq_bind, Option.bind_some, ih]
    rfl

/-! ### What is sliced -/

/-- Redirecting the imports of `source` asks for slices that are all there. -/
structure Slices (plugin : Plugin) (source unit : String) : Prop where
  within : ∀ m ∈ scan source, m.Within source
  /-- A statement ends before the next one starts. -/
  ordered : (scan source).Pairwise fun m m' => m.range.stop ≤ m'.range.start
  copied : ∀ span ∈ copiedSpans source.utf8ByteSize 0 (scan source), (slice? source span).isSome
  /-- Whatever statements were found, the copied parts are what is asked for. -/
  asked : ∀ (found : List Match) (entries : List Entry), entries.length = found.length →
    plugin.registry.size + entries.length ≤ 36 ^ 4 →
    ((splice? plugin source unit 0 "" (found.zip entries)).isSome ↔
      ∀ span ∈ copiedSpans source.utf8ByteSize 0 found, (slice? source span).isSome)
  /-- Every statement is visited with the entry that it asks for. -/
  visited : ∀ entries, (scan source).mapM (·.entry unit) = .ok entries →
    ((scan source).zip entries).map Prod.fst = scan source ∧
      ∀ p ∈ (scan source).zip entries, p.1.entry unit = .ok p.2
  defined : plugin.transform? source unit = some (plugin.transform source unit)

/-- No transformation lacks a slice of its source, and no run is broken off for want of one. -/
theorem transform_slices (h : plugin.Reachable) :
    (∀ source unit, Slices plugin source unit) ∧
      ∀ calls, plugin.run? calls = some (plugin.run calls) := by
  refine ⟨fun source unit => ?_, run?_eq_some plugin⟩
  have within : ∀ m ∈ scan source, m.Within source := fun m => within_of_mem_scan
  have ordered : (scan source).Pairwise fun m m' => m.range.stop ≤ m'.range.start :=
    Segments.pairwise_matchesFrom 0 _
  constructor
  case within => exact within
  case ordered => exact ordered
  case copied =>
    exact isSome_slice?_of_mem_copiedSpans String.Pos.Raw.isValid_zero within
      (fun _ _ => Nat.zero_le _) ordered
  case asked =>
    intro found entries hlen hle
    exact isSome_splice?_iff h.numbered hlen hle
  case visited =>
    intro entries hm
    refine ⟨List.map_fst_zip (Nat.le_of_eq (length_of_mapM_eq_ok hm).symm), fun p hp => ?_⟩
    exact List.forall₂_zip (forall₂_of_mapM_eq_ok hm) hp
  case defined => exact transform?_eq_some plugin source unit

/-- A source with characters of several bytes before, in and between its statements. -/
theorem transform_slices_second_source :
    let plugin := ((start .silent).transform "import { a } from 'maic/v'" "first").plugin
    let source := "é import\u2003{b, c as é} from 'maic/v';✓import {d} from \"maic\""
    let calls := [.transform source "second", .transform "import {é} from 'maic'" "bad",
      .resolve "0001/v"]
    plugin.Reachable ∧
      copiedSpans source.utf8ByteSize 0 (scan source) = [⟨0, 31⟩, ⟨35, 59⟩, ⟨63, 64⟩] ∧
      Slices plugin source "second" ∧ plugin.run? calls = some (plugin.run calls) := by
  have reachable := (Reachable.start .silent).transform "import { a } from 'maic/v'" "first"
  exact ⟨reachable, by decide +kernel, (transform_slices reachable).1 _ _,
    (transform_slices reachable).2 _⟩

end Plugin

end IconImports
