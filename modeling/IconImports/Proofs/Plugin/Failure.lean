import IconImports.Proofs.Plugin.Run
import Mathlib.Algebra.Group.Nat.Defs

/-!
# When a transformation fails

The lists of a source are read from left to right, and the first item that asks for no name is the
cause of a failure (`failure?_mapM_entry`), before the room for new entries is looked at. A source
whose items all ask for names fails if there is no room for all of its statements, and is redirected
to its end otherwise (`Decides`).

A transformation that fails or finds nothing is idle: it leaves the plugin as it is and logs
nothing. So a run comes to the same without it (`run_effective`).

The main statement: `transform_atomic`.
-/

namespace IconImports

/-! ### Items without a name -/

/-- Whether an item asks for something and does not start with a name. -/
def isNameless (item : List Char) : Bool := item ≠ [] && !item.head?.any isNameChar

def firstNameless? (found : List Match) : Option String :=
  ((found.flatMap fun m => (pieces ',' m.content.toList).map trimBlanks).find? isNameless).map
    String.ofList

theorem failure?_leadingName {item : List Char} (h : item ≠ []) :
    failure? (leadingName item) = if isNameless item then some (String.ofList item) else none := by
  obtain ⟨c, item, rfl⟩ := List.exists_cons_of_ne_nil h
  cases hc : isNameChar c <;> simp [leadingName, isNameless, failure?, hc]

theorem findSome?_leadingName (items : List (List Char)) :
    ((items.filter (· ≠ [])).findSome? fun item => failure? (leadingName item)) =
      (items.find? isNameless).map String.ofList := by
  induction items with
  | nil => rfl
  | cons item items ih =>
    by_cases h : item = []
    · simpa [h, isNameless] using ih
    · rw [List.filter_cons_of_pos (by simpa using h), List.findSome?_cons, failure?_leadingName h,
        ih, List.find?_cons]
      cases isNameless item <;> rfl

theorem failure?_importNames (content : String) :
    failure? (importNames content) =
      (((pieces ',' content.toList).map trimBlanks).find? isNameless).map String.ofList := by
  rw [importNames, failure?_mapM]
  exact findSome?_leadingName _

theorem Match.failure?_entry (found : Match) (unit : String) :
    failure? (found.entry unit) =
      (failure? (importNames found.content)).map (.invalidImport unit) := by
  unfold Match.entry
  cases importNames found.content <;> rfl

theorem failure?_mapM_entry (found : List Match) (unit : String) :
    failure? (found.mapM (·.entry unit)) = (firstNameless? found).map (.invalidImport unit) := by
  simp only [failure?_mapM, Match.failure?_entry, failure?_importNames, firstNameless?,
    List.find?_flatMap, List.map_findSome?, Function.comp_def]

/-- Whether the answer is that of a transformation that failed or found nothing. -/
def Answer.isIdle : Answer → Bool
  | transformed (.ok (some _)) => false
  | transformed _ => true
  | resolved _ => false
  | loaded _ => false

namespace Plugin

variable {plugin : Plugin}

/-! ### What a transformation comes to -/

/-- What redirecting the imports of `source` comes to depends on its items first, and then on the
room that is left. -/
structure Decides (plugin : Plugin) (source unit : String) : Prop where
  nothing : scan source = [] → plugin.transform source unit = ⟨.ok none, plugin, []⟩
  nameless : ∀ piece, firstNameless? (scan source) = some piece →
    plugin.transform source unit = ⟨.error (.invalidImport unit piece), plugin, []⟩
  exhausted : firstNameless? (scan source) = none → scan source ≠ [] →
    36 ^ 4 < plugin.registry.size + (scan source).length →
    plugin.transform source unit = ⟨.error .idSpaceExhausted, plugin, []⟩
  /-- Otherwise all entries are registered, one by one, and there is a new text. -/
  redirected : firstNameless? (scan source) = none → scan source ≠ [] →
    plugin.registry.size + (scan source).length ≤ 36 ^ 4 →
    ∃ entries code later calls, (scan source).mapM (·.entry unit) = .ok entries ∧
      splice? plugin source unit 0 "" ((scan source).zip entries) =
        some ⟨.ok code, later, calls⟩ ∧
      (plugin.transform source unit).answer = .ok (some code)

theorem decides (hr : plugin.registry.Numbered) (source unit : String) :
    Decides plugin source unit := by
  have failure := failure?_mapM_entry (scan source) unit
  obtain ⟨hf, h⟩ | ⟨e, hf, hm, h⟩ | ⟨entries, hf, hm, hgt, h⟩ | ⟨entries, hf, hm, hle, h⟩ :=
    transform_cases hr source unit
  · have named : firstNameless? (scan source) = none := by rw [hf]; rfl
    exact {
      nothing := fun _ => h
      nameless := by simp [named]
      exhausted := fun _ hne => absurd hf hne
      redirected := fun _ hne => absurd hf hne }
  · rw [hm, eq_comm] at failure
    obtain ⟨piece, hpiece, rfl⟩ := Option.map_eq_some_iff.1 failure
    refine { nothing := fun he => absurd he hf, nameless := ?_, exhausted := ?_, redirected := ?_ }
    · intro piece' hpiece'
      obtain rfl := Option.some.inj (hpiece.symm.trans hpiece')
      exact h
    · simp [hpiece]
    · simp [hpiece]
  · rw [hm, eq_comm] at failure
    have named : firstNameless? (scan source) = none := Option.map_eq_none_iff.1 failure
    rw [length_of_mapM_eq_ok hm] at hgt
    exact {
      nothing := fun he => absurd he hf
      nameless := by simp [named]
      exhausted := fun _ _ _ => h
      redirected := fun _ _ hle => absurd hgt (Nat.not_lt.2 hle) }
  · rw [hm, eq_comm] at failure
    have named : firstNameless? (scan source) = none := Option.map_eq_none_iff.1 failure
    have spliced := splice?_scan hr hm hle
    rw [length_of_mapM_eq_ok hm] at hle
    exact {
      nothing := fun he => absurd he hf
      nameless := by simp [named]
      exhausted := fun _ _ hgt => absurd hgt (Nat.not_lt.2 hle)
      redirected := fun _ _ _ => ⟨entries, _, _, _, hm, spliced, by rw [h]⟩ }

/-! ### Idle transformations -/

/-- The calls of a run without the idle transformations, each with its answer. -/
def effective (plugin : Plugin) (calls : List Call) : List (Call × Answer) :=
  (calls.zip (plugin.run calls).answer).filter fun p => !p.2.isIdle

theorem perform_of_isIdle (hr : plugin.registry.Numbered) {call : Call}
    (h : (plugin.perform call).answer.isIdle = true) :
    (plugin.perform call).plugin = plugin ∧ (plugin.perform call).calls = [] := by
  cases call with
  | resolve specifier => cases h
  | load name => cases h
  | transform source unit =>
    simp only [perform, Outcome.map] at h ⊢
    obtain ⟨-, ht⟩ | ⟨e, -, -, ht⟩ | ⟨entries, -, -, -, ht⟩ | ⟨entries, -, -, -, ht⟩ :=
      transform_cases hr source unit
    · rw [ht]; exact ⟨rfl, rfl⟩
    · rw [ht]; exact ⟨rfl, rfl⟩
    · rw [ht]; exact ⟨rfl, rfl⟩
    · rw [ht] at h
      cases h

theorem plugin_transform_of_isIdle (hr : plugin.registry.Numbered) {source unit : String}
    (h : (Answer.transformed (plugin.transform source unit).answer).isIdle = true) :
    (plugin.transform source unit).plugin = plugin := by
  have idle : (plugin.perform (.transform source unit)).answer.isIdle = true := h
  exact (perform_of_isIdle hr idle).1

theorem effective_cons (plugin : Plugin) (call : Call) (calls : List Call) :
    plugin.effective (call :: calls) =
      if (plugin.perform call).answer.isIdle then (plugin.perform call).plugin.effective calls
      else (call, (plugin.perform call).answer) ::
        (plugin.perform call).plugin.effective calls := by
  rw [effective, run, List.zip_cons_cons, List.filter_cons]
  cases (plugin.perform call).answer.isIdle <;> rfl

theorem run_effective (hr : plugin.registry.Numbered) (calls : List Call) :
    plugin.run ((plugin.effective calls).map Prod.fst) =
      ⟨(plugin.effective calls).map Prod.snd, (plugin.run calls).plugin,
        (plugin.run calls).calls⟩ := by
  induction calls generalizing plugin with
  | nil => rfl
  | cons call calls ih =>
    have rest := ih (numbered_perform hr call)
    rw [effective_cons]
    cases hidle : (plugin.perform call).answer.isIdle with
    | true =>
      obtain ⟨same, quiet⟩ := perform_of_isIdle hr hidle
      rw [if_pos rfl, run, quiet, List.nil_append]
      rw [same] at rest ⊢
      exact rest
    | false =>
      rw [if_neg Bool.false_ne_true, List.map_cons, List.map_cons, run, rest]
      rfl

/-- A transformation fails for its first item without a name, or else for want of room, or not at
all; and a run comes to the same without the transformations that fail or find nothing. -/
theorem transform_atomic (h : plugin.Reachable) :
    (∀ source unit, Decides plugin source unit) ∧
      ∀ calls, let effective := plugin.effective calls
        plugin.run (effective.map Prod.fst) =
          ⟨effective.map Prod.snd, (plugin.run calls).plugin, (plugin.run calls).calls⟩ :=
  ⟨decides h.numbered, run_effective h.numbered⟩

/-- Two transformations of a run are idle: one finds nothing, and one fails at its second
statement. -/
theorem transform_atomic_after_first_source :
    let plugin := ((start .silent).transform "import { a } from 'maic/v'" "first").plugin
    let source := "import { b } from 'maic'; import \x7b c,, 'd' as e, + \x7d from \"maic/v\""
    let calls := [.transform "b" "none", .transform source "bad",
      .transform "import {f} from 'maic'" "good", .resolve "0001"]
    let effective := plugin.effective calls
    plugin.Reachable ∧ firstNameless? (scan source) = some "'d' as e" ∧
      effective.map Prod.fst = [.transform "import {f} from 'maic'" "good", .resolve "0001"] ∧
      Decides plugin source "bad" ∧
      plugin.run (effective.map Prod.fst) =
        ⟨effective.map Prod.snd, (plugin.run calls).plugin, (plugin.run calls).calls⟩ := by
  have reachable := (Reachable.start .silent).transform "import { a } from 'maic/v'" "first"
  exact ⟨reachable, by decide +kernel, by decide +kernel, (transform_atomic reachable).1 _ _,
    (transform_atomic reachable).2 _⟩

end Plugin

end IconImports
