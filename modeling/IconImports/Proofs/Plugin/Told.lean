import IconImports.Proofs.Plugin.Lookup

/-!
# What a logger is told

What a plugin answers and registers does not depend on its logger. An `Effect` is what is left of an
operation when the logger is taken away: its answer, the registry afterwards, and the events of which
it tells. With a logger it becomes an outcome again, in which a logger that does not want debug messages
is not told of registrations. An operation is `Faithful` if it has such an effect, and if the entries
which it adds are those of whose registration it tells.

One faithful operation after another is faithful (`Faithful.andThen`). Every call of a plugin is
(`faithful_perform`), so a run is (`faithful_run`): all loggers are told of the same events, and the
registrations among them are the registry.

The main statement: `run_recorded`.
-/

namespace IconImports

/-! ### Loggers -/

/-- The entry of whose registration an event tells. -/
def Event.registered? : Event → Option (ModuleId × Entry)
  | registered id entry _ => some (id, entry)
  | _ => none

/-- The line that a console for debug messages writes of an event. -/
def Event.line (label : String) (event : Event) : String :=
  "[" ++ label ++ "] debug: " ++ event.message ++ "\n"

namespace Logger

/-- The calls by which a logger is told of events. -/
def told (logger : Logger) (events : List Event) : List LogCall :=
  (events.filter fun e => logger.isEnabled .debug || e.registered?.isNone).map Event.call

theorem told_append (logger : Logger) (events events' : List Event) :
    logger.told (events ++ events') = logger.told events ++ logger.told events' := by
  simp [told]

variable {logger : Logger} {events : List Event}

theorem told_of_forall (logger : Logger) (h : ∀ e ∈ events, e.registered? = none) :
    logger.told events = events.map Event.call := by
  have all : events.filter (fun e => logger.isEnabled .debug || e.registered?.isNone) = events := by
    rw [List.filter_eq_self]
    intro e he
    simp [h e he]
  rw [told, all]

theorem told_of_isEnabled (h : logger.isEnabled .debug = true) (events : List Event) :
    logger.told events = events.map Event.call := by
  simp [told, h]

theorem told_of_isEnabled_eq_false (h : logger.isEnabled .debug = false) (events : List Event) :
    logger.told events = (events.filter (·.registered?.isNone)).map Event.call := by
  simp [told, h]

theorem isEnabled_debug_eq_false (h : logger.threshold ≠ .debug) :
    logger.isEnabled .debug = false := by
  rw [isEnabled]
  cases ht : logger.threshold with
  | debug => exact absurd ht h
  | info => rfl
  | warn => rfl
  | error => rfl

theorem line_console_debug (label : String) (event : Event) :
    (console .debug label).line event.call = "[" ++ label ++ "] debug: " ++ event.message ++ "\n" := by
  have parts : (console .debug label).line event.call =
      "[" ++ label ++ "] " ++ "debug" ++ ": " ++ event.message ++ "\n" := rfl
  rw [parts, ← String.toList_inj]
  simp

theorem written_eq_empty {calls : List LogCall} (h : ∀ call ∈ calls, logger.line call = "") :
    logger.written calls = "" := by
  induction calls with
  | nil => rfl
  | cons call calls ih =>
    rw [List.forall_mem_cons] at h
    rw [written, List.map_cons, String.join_cons, h.1, String.empty_append]
    exact ih h.2

theorem level_of_mem_told {call : LogCall} (h : call ∈ logger.told events) : call.level = .debug := by
  obtain ⟨e, -, rfl⟩ := List.mem_map.1 h
  rfl

theorem written_told_console_debug (label : String) (events : List Event) :
    (console .debug label).written ((console .debug label).told events) =
      String.join (events.map (Event.line label)) := by
  have debug : (console .debug label).isEnabled .debug = true := rfl
  rw [told_of_isEnabled debug, written, List.map_map]
  congr 2
  funext event
  exact line_console_debug label event

theorem written_told_of_isEnabled_eq_false (h : logger.isEnabled .debug = false)
    (events : List Event) : logger.written (logger.told events) = "" := by
  apply written_eq_empty
  intro call hcall
  have level := level_of_mem_told hcall
  cases logger with
  | silent => rfl
  | console threshold label => rw [line, level, h, if_neg Bool.false_ne_true]
  | recorder threshold => rfl

end Logger

/-! ### Effects -/

/-- What an operation leads to with any logger. -/
structure Effect (α : Type) where
  answer : α
  registry : Registry
  events : List Event

def Effect.outcome {α : Type} (effect : Effect α) (logger : Logger) : Outcome α :=
  ⟨effect.answer, ⟨effect.registry, logger⟩, logger.told effect.events⟩

/-- On the registry `r`, the operation does the same with every logger, and tells of the registration
of the entries that it adds. -/
def Faithful {α : Type} (r : Registry) (operation : Plugin → Outcome α) : Prop :=
  ∃ effect : Effect α, (∀ logger, operation ⟨r, logger⟩ = effect.outcome logger) ∧
    effect.registry.toList = r.toList ++ effect.events.filterMap Event.registered?

/-- What two operations lead to, of which the second sees the answer of the first and the plugin
afterwards. -/
def Outcome.andThen {α β : Type} (first : Outcome α) (next : α → Plugin → Outcome β) : Outcome β :=
  let others := next first.answer first.plugin
  ⟨others.answer, others.plugin, first.calls ++ others.calls⟩

section Faithful

variable {α β : Type} {r : Registry} {operation : Plugin → Outcome α}

theorem Faithful.congr {operation' : Plugin → Outcome α} (h : Faithful r operation)
    (heq : ∀ logger, operation' ⟨r, logger⟩ = operation ⟨r, logger⟩) : Faithful r operation' := by
  obtain ⟨effect, heffect, entered⟩ := h
  exact ⟨effect, fun logger => (heq logger).trans (heffect logger), entered⟩

theorem Faithful.of_forall_eq (answer : α) (events : List Event)
    (hevents : ∀ e ∈ events, e.registered? = none)
    (h : ∀ logger, operation ⟨r, logger⟩ = ⟨answer, ⟨r, logger⟩, events.map Event.call⟩) :
    Faithful r operation := by
  refine ⟨⟨answer, r, events⟩, fun logger => ?_, ?_⟩
  · rw [h, Effect.outcome, logger.told_of_forall hevents]
  · rw [List.filterMap_eq_nil_iff.2 hevents, List.append_nil]

theorem Faithful.of_forall_eq_nil (answer : α)
    (h : ∀ logger, operation ⟨r, logger⟩ = ⟨answer, ⟨r, logger⟩, []⟩) : Faithful r operation :=
  .of_forall_eq answer [] (List.forall_mem_nil _) h

theorem Faithful.map (h : Faithful r operation) (f : α → β) :
    Faithful r fun plugin => (operation plugin).map f := by
  obtain ⟨effect, heffect, entered⟩ := h
  refine ⟨⟨f effect.answer, effect.registry, effect.events⟩, fun logger => ?_, entered⟩
  show (operation ⟨r, logger⟩).map f = _
  rw [heffect]
  rfl

theorem Faithful.andThen {next : α → Plugin → Outcome β} (h : Faithful r operation)
    (hnext : ∀ logger, Faithful (operation ⟨r, logger⟩).plugin.registry
      (next (operation ⟨r, logger⟩).answer)) :
    Faithful r fun plugin => (operation plugin).andThen next := by
  obtain ⟨first, hfirst, entered⟩ := h
  have rest := hnext .silent
  rw [hfirst] at rest
  obtain ⟨others, hothers, entered'⟩ := rest
  refine ⟨⟨others.answer, others.registry, first.events ++ others.events⟩, fun logger => ?_, ?_⟩
  · have later : next first.answer ⟨first.registry, logger⟩ = others.outcome logger := hothers logger
    simp only [Outcome.andThen, hfirst, Effect.outcome, later, Logger.told_append]
  · show others.registry.toList = _
    rw [entered', List.filterMap_append, ← List.append_assoc, ← entered]
    rfl

end Faithful

namespace Plugin

variable {r : Registry}

/-! ### What the calls tell -/

theorem registrations_eq_told (logger : Logger) (entries : List (ModuleId × Entry)) (unit : String) :
    registrations logger entries unit =
      logger.told (entries.map fun p => .registered p.1 p.2 unit) := by
  unfold registrations Logger.told
  cases logger.isEnabled .debug with
  | true => simp
  | false => simp [List.filter_map, Function.comp_def, Event.registered?]

theorem faithful_transform (hr : r.Numbered) (source unit : String) :
    Faithful r fun plugin => plugin.transform source unit := by
  by_cases hf : scan source = []
  · exact Faithful.of_forall_eq_nil _ fun logger =>
      transform_of_scan_eq_nil ⟨r, logger⟩ hf unit
  cases hm : (scan source).mapM (·.entry unit) with
  | error e =>
    exact Faithful.of_forall_eq_nil _ fun logger =>
      transform_of_mapM_eq_error ⟨r, logger⟩ hf hm
  | ok entries =>
    by_cases hgt : ModuleId.capacity < r.size + entries.length
    · exact Faithful.of_forall_eq_nil _ fun logger =>
        transform_of_capacity_lt ⟨r, logger⟩ hf hm hgt
    · have hle := Nat.not_lt.1 hgt
      let new := (ModuleId.range r.size entries.length).zip entries
      let code := String.ofList ((Segments.ofText source.toList).redirected r.size)
      refine ⟨⟨.ok (some code), r.append entries, new.map (fun p => .registered p.1 p.2 unit) ++
        [.redirected entries.length unit]⟩, fun logger => ?_, ?_⟩
      · have redirected : transform ⟨r, logger⟩ source unit = ⟨_, _, _⟩ :=
          transform_of_le_capacity hr hf hm hle
        dsimp only at redirected ⊢
        rw [redirected, registrations_eq_told, Effect.outcome, Logger.told_append,
          logger.told_of_forall (List.forall_mem_singleton.2 rfl)]
        rfl
      · have entered : (fun p : ModuleId × Entry =>
            (Event.registered p.1 p.2 unit).registered?) = some := rfl
        rw [hr.toList_append hle, List.filterMap_append, List.filterMap_map, Function.comp_def,
          entered, List.filterMap_some]
        exact congrArg _ (List.append_nil _).symm

theorem faithful_resolve (r : Registry) (specifier : String) :
    Faithful r fun plugin => plugin.resolve specifier := by
  cases hid : openingId? specifier with
  | none =>
    exact .of_forall_eq_nil none fun logger => by simp [resolve, hid]
  | some id =>
    cases known : r.contains id with
    | false =>
      exact .of_forall_eq_nil none fun logger => by simp [resolve, hid, known]
    | true =>
      refine .of_forall_eq (some (virtualName specifier)) [.resolved specifier id]
        (by simp [Event.registered?]) fun logger => ?_
      simp only [resolve, hid, known, if_true]
      rfl

theorem faithful_load (r : Registry) (name : String) : Faithful r fun plugin => plugin.load name := by
  cases hid : (specifier? name).bind openingId? with
  | none => exact .of_forall_eq_nil none fun logger => by simp [load, hid]
  | some id =>
    cases he : r.get? id with
    | none =>
      exact .of_forall_eq_nil none fun logger => by simp [load, hid, he]
    | some entry =>
      refine .of_forall_eq (some entry.moduleSource) [.loading id entry.imports.length]
        (by simp [Event.registered?]) fun logger => ?_
      simp only [load, hid, he]
      rfl

/-! ### What a run tells -/

theorem faithful_perform (hr : r.Numbered) (call : Call) :
    Faithful r fun plugin => plugin.perform call := by
  cases call with
  | transform source unit => exact (faithful_transform hr source unit).map _
  | resolve specifier => exact (faithful_resolve r specifier).map _
  | load name => exact (faithful_load r name).map _

theorem faithful_run (hr : r.Numbered) (calls : List Call) :
    Faithful r fun plugin => plugin.run calls := by
  induction calls generalizing r with
  | nil => exact .of_forall_eq_nil [] fun logger => rfl
  | cons call calls ih =>
    show Faithful r fun plugin => (plugin.perform call).andThen fun answer later =>
      (later.run calls).map (answer :: ·)
    apply (faithful_perform hr call).andThen
    intro logger
    exact (ih (numbered_perform hr call)).map _

/-! ### What is recorded -/

variable {plugin : Plugin}

/-- What a recorder is told by the next call. -/
structure Records (plugin : Plugin) : Prop where
  /-- There is one line for each redirected statement, which tells of the entry that is stored for it,
  and one line for them all. -/
  redirected : ∀ source unit out, (plugin.transform source unit).answer = .ok (some out) →
    let later := plugin.transform source unit
    ∃ new, later.plugin.registry.toList = plugin.registry.toList ++ new ∧
      new.length = (scan source).length ∧
      (∀ p ∈ new, later.plugin.registry.get? p.1.text = some p.2) ∧
      later.calls =
        new.map (fun p => ⟨.debug, p.1.text ++ " <- \x7b " ++ ", ".intercalate p.2.imports ++
          " \x7d from " ++ p.2.target.variant?.getD "<bare>" ++ " in " ++ unit⟩) ++
        [⟨.debug, "rewrote " ++ toString (scan source).length ++ " import(s) in " ++ unit⟩]
  idle : ∀ source unit, (∀ out, (plugin.transform source unit).answer ≠ .ok (some out)) →
    (plugin.transform source unit).calls = []
  claimed : ∀ s name, (plugin.resolve s).answer = some name →
    (plugin.resolve s).calls =
      [⟨.debug, "resolved " ++ s ++ " as virtual module " ++ String.ofList (s.toList.take 4)⟩]
  unclaimed : ∀ s, (plugin.resolve s).answer = none → (plugin.resolve s).calls = []
  served : ∀ name text, (plugin.load name).answer = some text →
    let id := String.ofList ((name.toList.drop 1).take 4)
    ∃ entry, plugin.registry.get? id = some entry ∧ text = entry.moduleSource ∧
      (plugin.load name).calls =
        [⟨.debug, "loading " ++ id ++ " (" ++ toString entry.imports.length ++ " export(s))"⟩]
  unknown : ∀ name, (plugin.load name).answer = none → (plugin.load name).calls = []

theorem eq_ofList_take_of_contains (hr : plugin.registry.Numbered) {specifier id : String}
    (hid : openingId? specifier = some id) (known : plugin.registry.contains id = true) :
    id = String.ofList (specifier.toList.take 4) := by
  obtain ⟨i, hi, rfl⟩ := hr.contains_iff.1 known
  have opening := (openingId?_eq_ofIndex_iff (Nat.lt_of_lt_of_le hi hr.size_le)).1 hid
  rw [← String.toList_inj, String.toList_ofList]
  exact ModuleId.toList_text_ofIndex_of_index? opening

theorem records (hr : plugin.registry.Numbered) (debug : plugin.logger.isEnabled .debug = true) :
    Records plugin := by
  constructor
  case redirected =>
    intro source unit out hout later
    obtain ⟨-, h⟩ | ⟨e, -, -, h⟩ | ⟨entries, -, -, -, h⟩ | ⟨entries, -, hm, hle, h⟩ :=
      transform_cases hr source unit
    · rw [h] at hout
      cases hout
    · rw [h] at hout
      cases hout
    · rw [h] at hout
      cases hout
    · have length := length_of_mapM_eq_ok hm
      have added := hr.toList_append hle
      refine ⟨(ModuleId.range plugin.registry.size entries.length).zip entries, ?_, ?_, ?_, ?_⟩
      · simp only [later, h, added]
      · simp [length]
      · intro p hp
        rw [Registry.get?_eq_some_iff_mem]
        simp only [later, h, added]
        exact List.mem_append_right _ hp
      · simp only [later, h, registrations, debug, if_true, length]
        rfl
  case idle =>
    intro source unit hidle
    obtain ⟨-, h⟩ | ⟨e, -, -, h⟩ | ⟨entries, -, -, -, h⟩ | ⟨entries, -, -, -, h⟩ :=
      transform_cases hr source unit
    · rw [h]
    · rw [h]
    · rw [h]
    · exact absurd (congrArg Outcome.answer h) (hidle _)
  case claimed =>
    intro s name hname
    obtain ⟨h, -⟩ | ⟨id, hid, known, h⟩ := resolve_cases plugin s
    · rw [h] at hname
      cases hname
    · rw [h, ← eq_ofList_take_of_contains hr hid known]
      rfl
  case unclaimed =>
    intro s hnone
    rw [resolve_eq_of_answer_eq_none hnone]
  case served =>
    intro name text htext id
    obtain ⟨h, -⟩ | ⟨specifier, id', entry, hname, hid, he, h⟩ := load_cases plugin name
    · rw [h] at htext
      cases htext
    · have known : plugin.registry.contains id' = true := by
        rw [Registry.contains_eq_isSome_get?, he]
        rfl
      have opening : id = id' := by
        rw [eq_ofList_take_of_contains hr hid known]
        simp [id, hname, virtualName]
      rw [h] at htext ⊢
      rw [opening]
      exact ⟨entry, he, (Option.some.inj htext).symm, rfl⟩
  case unknown =>
    intro name hnone
    rw [load_eq_of_answer_eq_none hnone]

/-- What is recorded in a run. -/
structure Recorded (calls : List Call) : Prop where
  next : Records ((start (.recorder .debug)).run calls).plugin
  /-- What is recorded are events, among which every entry is told of once and in order. A recorder of
  a higher level is told of all the others. -/
  events : ∃ events : List Event,
    ((start (.recorder .debug)).run calls).calls = events.map Event.call ∧
    events.filterMap Event.registered? =
      ((start (.recorder .debug)).run calls).plugin.registry.toList ∧
    ∀ level, level ≠ .debug → ((start (.recorder level)).run calls).calls =
      (events.filter (·.registered?.isNone)).map Event.call
  /-- A console for debug messages writes one line for each recorded call. -/
  written : ∀ label,
    (Logger.console .debug label).written ((start (.console .debug label)).run calls).calls =
      String.join (((start (.recorder .debug)).run calls).calls.map fun call =>
        "[" ++ label ++ "] debug: " ++ call.message ++ "\n")
  /-- A console of a higher level writes nothing. -/
  quiet : ∀ level label, level ≠ .debug →
    (Logger.console level label).written ((start (.console level label)).run calls).calls = ""

theorem run_recorded (calls : List Call) : Recorded calls := by
  obtain ⟨effect, heffect, entered⟩ := faithful_run Registry.numbered_empty calls
  have run_eq : ∀ logger, (start logger).run calls = effect.outcome logger := heffect
  constructor
  case next =>
    have reachable := (Reachable.start (.recorder .debug)).run calls
    apply records reachable.numbered
    rw [run_eq]
    rfl
  case events =>
    refine ⟨effect.events, ?_, ?_, fun level hlevel => ?_⟩
    · rw [run_eq]
      exact Logger.told_of_isEnabled rfl _
    · rw [run_eq]
      exact entered.symm
    · have disabled : (Logger.recorder level).isEnabled .debug = false :=
        Logger.isEnabled_debug_eq_false hlevel
      rw [run_eq]
      exact Logger.told_of_isEnabled_eq_false disabled _
  case written =>
    intro label
    have told : ∀ logger : Logger, logger.isEnabled .debug = true →
        ((start logger).run calls).calls = effect.events.map Event.call := by
      intro logger debug
      rw [run_eq]
      exact Logger.told_of_isEnabled debug _
    rw [told _ rfl, told _ rfl, Logger.written, List.map_map, List.map_map]
    congr 2
    funext event
    exact Logger.line_console_debug label event
  case quiet =>
    intro level label hlevel
    have disabled : (Logger.console level label).isEnabled .debug = false :=
      Logger.isEnabled_debug_eq_false hlevel
    apply Logger.written_eq_empty
    intro call hcall
    rw [run_eq] at hcall
    rw [Logger.line, Logger.level_of_mem_told hcall, disabled]
    rfl

end Plugin

end IconImports
