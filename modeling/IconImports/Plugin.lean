import IconImports.Log
import IconImports.Registry
import IconImports.Segments
import IconImports.Text.Pieces

/-!
# Redirecting imports and serving virtual modules

A `Plugin` is a registry with a logger. `transform` gives every aggregate import of a source a
fresh identifier in the place of the package name and registers the names that stand between its
braces, of an item such as `ic_home as Home` the name at its start. `resolve` claims the module names
that open with a registered identifier, and `load` serves the module that re-exports what was asked
for.

Every operation returns an `Outcome`: its answer, the plugin afterwards, and the calls that its
logger received. The source is copied slice by slice, and a slice can be missing (`slice?`); that
none is missing for the statements of a scan (`isSome_transform?`) makes `transform` total.
-/

namespace IconImports

/-! ### Import lists -/

def isNameChar (c : Char) : Bool := c.isAlphanum || c == '_' || c == '$'

/-- The items of a list: the trimmed pieces between commas that are not empty. -/
def importItems (content : List Char) : List (List Char) :=
  ((pieces ',' content).map trimBlanks).filter (· ≠ [])

/-- The name at the start of an item, or else the item. -/
def leadingName (item : List Char) : Except String String :=
  let name := item.takeWhile isNameChar
  if name = [] then .error (String.ofList item) else .ok (String.ofList name)

/-- The names that a list asks for, or the first item without one. -/
def importNames (content : String) : Except String (List String) :=
  (importItems content.toList).mapM leadingName

/-! ### Names of modules -/

/-- The name under which a host lists the plugin, and the label of its log lines. -/
def pluginName : String := "maic helper"

/-- The character that opens the id of a virtual module; no path on disk contains it. -/
def virtualMark : Char := '\x00'

/-- The bytes at the start of a module name that may be an identifier. There are none if the name is
too short, or if a character goes on after them. -/
def openingId? (specifier : String) : Option String := slice? specifier ⟨0, ModuleId.width⟩

theorem openingId?_append {id : String} (h : id.utf8ByteSize = ModuleId.width) (rest : String) :
    openingId? (id ++ rest) = some id := by
  have slice := slice?_append "" id rest
  rw [h, String.empty_append] at slice
  simpa [openingId?] using slice

def virtualName (specifier : String) : String := String.singleton virtualMark ++ specifier

/-- The module name within the name of a virtual module. -/
def specifier? (name : String) : Option String :=
  match name.toList with
  | [] => none
  | c :: specifier => if c = virtualMark then some (String.ofList specifier) else none

/-! ### Events -/

inductive Event
  | registered (id : ModuleId) (entry : Entry) (unit : String)
  | redirected (count : Nat) (unit : String)
  | resolved (specifier id : String)
  | loading (id : String) (exports : Nat)
  deriving DecidableEq

namespace Event

def message : Event → String
  | registered id entry unit =>
    let names := ", ".intercalate entry.imports
    let source := entry.target.variant?.getD "<bare>"
    s!"{id.text} <- \x7b {names} \x7d from {source} in {unit}"
  | redirected count unit => s!"rewrote {count} import(s) in {unit}"
  | resolved specifier id => s!"resolved {specifier} as virtual module {id}"
  | loading id exports => s!"loading {id} ({exports} export(s))"

def call (event : Event) : LogCall := ⟨.debug, event.message⟩

end Event

/-! ### The plugin -/

/-- A registry with a logger. -/
structure Plugin where
  registry : Registry
  logger : Logger

/-- What an operation leads to. -/
structure Outcome (α : Type) where
  answer : α
  plugin : Plugin
  /-- The calls that the logger received, in order. -/
  calls : List LogCall

/-- What the statement asks for, in the source called `unit`. -/
def Match.entry (found : Match) (unit : String) : Except RedirectError Entry :=
  match importNames found.content with
  | .error piece => .error (.invalidImport unit piece)
  | .ok names => .ok ⟨.ofVariant found.variant, names⟩

theorem Match.entry_eq_ok_iff {found : Match} {unit : String} {entry : Entry} :
    found.entry unit = .ok entry ↔
      ∃ names, importNames found.content = .ok names ∧ entry = ⟨.ofVariant found.variant, names⟩ := by
  unfold Match.entry
  cases importNames found.content <;> simp [eq_comm]

namespace Plugin

def start (logger : Logger) : Plugin := ⟨∅, logger⟩

def name (_ : Plugin) : String := pluginName

/-! ### Redirecting -/

/-- Tells of the entry that is stored under `id`, to a logger that wants debug messages. -/
def registrationCalls (plugin : Plugin) (id : ModuleId) (unit : String) : List LogCall :=
  if plugin.logger.isEnabled .debug then
    match plugin.registry.get? id.text with
    | none => []
    | some entry => [(Event.registered id entry unit).call]
  else []

/-- Registers entries one by one, each for its statement, and copies the source with the identifiers
in the places of the package names. The source is in the output up to the byte `cursor`. There is no
outcome if a slice of the source is missing. -/
def splice? (plugin : Plugin) (source unit : String) (cursor : Nat) (output : String) :
    List (Match × Entry) → Option (Outcome (Except RedirectError String))
  | [] => do
    let tail ← slice? source ⟨cursor, source.utf8ByteSize⟩
    return ⟨.ok (output ++ tail), plugin, []⟩
  | (found, entry) :: others =>
    let ⟨registry, logger⟩ := plugin
    match registry.nextId with
    | .error e => some ⟨.error e, ⟨registry, logger⟩, []⟩
    | .ok id => do
      let plugin := ⟨registry.store id entry, logger⟩
      let calls := registrationCalls plugin id unit
      let passed ← slice? source ⟨cursor, found.package.start⟩
      let rest ← splice? plugin source unit found.package.stop (output ++ passed ++ id.text) others
      return { rest with calls := calls ++ rest.calls }

/-- Redirects the imports of the source called `unit`, unless a slice of the source is missing. Before
anything is registered, all lists are read and room is made sure of. -/
def transform? (plugin : Plugin) (source unit : String) :
    Option (Outcome (Except RedirectError (Option String))) :=
  let found := scan source
  if found.isEmpty then some ⟨.ok none, plugin, []⟩
  else
    match found.mapM (·.entry unit) with
    | .error e => some ⟨.error e, plugin, []⟩
    | .ok entries =>
      match plugin.registry.ensureCapacity entries.length with
      | .error e => some ⟨.error e, plugin, []⟩
      | .ok _ =>
        match splice? plugin source unit 0 "" (found.zip entries) with
        | none => none
        | some ⟨.error e, plugin, calls⟩ => some ⟨.error e, plugin, calls⟩
        | some ⟨.ok code, plugin, calls⟩ =>
          some ⟨.ok (some code), plugin, calls ++ [(Event.redirected found.length unit).call]⟩

section Splice

variable {source : String} {passed pending before tail : List Char} {st : Statement}
  {statements : List (List Char × Statement)}

theorem splice?_nil (h : source.toList = passed ++ pending) (plugin : Plugin)
    (unit output : String) :
    splice? plugin source unit (byteLength passed) output [] =
      some ⟨.ok (output ++ String.ofList pending), plugin, []⟩ := by
  rw [splice?, slice?_to_end h]
  rfl

theorem splice?_cons
    (h : source.toList =
      passed ++ (pending ++ (Segments.mk ((before, st) :: statements) tail).text))
    (plugin : Plugin) (unit output : String) (entry : Entry) (entries : List Entry) :
    splice? plugin source unit (byteLength passed) output
        ((Segments.matchesFrom (byteLength (passed ++ pending)) ((before, st) :: statements)).zip
          (entry :: entries)) =
      match plugin.registry.nextId with
      | .error e => some ⟨.error e, plugin, []⟩
      | .ok id =>
        let copied := pending ++ before ++ st.beforePackage
        let plugin := ⟨plugin.registry.store id entry, plugin.logger⟩
        let passed := passed ++ copied ++ Statement.packageWord
        (splice? plugin source unit (byteLength passed) (output ++ String.ofList copied ++ id.text)
          ((Segments.matchesFrom (byteLength (passed ++ st.afterPackage)) statements).zip
            entries)).map
          fun rest => { rest with calls := registrationCalls plugin id unit ++ rest.calls } := by
  have hs : source.toList =
      passed ++ (pending ++ before ++ st.beforePackage) ++
        (Statement.packageWord ++ (st.afterPackage ++ (Segments.mk statements tail).text)) := by
    simp [h, Segments.text_cons]
  have slice := slice?_of_toList_eq hs
  rw [Segments.matchesFrom_cons, List.zip_cons_cons, splice?, Statement.package_matchAt]
  cases plugin.registry.nextId with
  | error e => rfl
  | ok id =>
    simp only [List.append_assoc] at slice ⊢
    rw [slice]
    simp only [Statement.text, Statement.textWith, Option.map_eq_bind, Option.bind_eq_bind,
      Option.bind_some, List.append_assoc]
    rfl

theorem isSome_splice?
    (h : source.toList = passed ++ (pending ++ (Segments.mk statements tail).text))
    (plugin : Plugin) (unit output : String) (entries : List Entry) :
    (splice? plugin source unit (byteLength passed) output
      ((Segments.matchesFrom (byteLength (passed ++ pending)) statements).zip entries)).isSome := by
  induction statements generalizing plugin output entries passed pending with
  | nil => rw [Segments.matchesFrom, List.zip_nil_left, splice?_nil h]; rfl
  | cons p statements ih =>
    obtain ⟨before, st⟩ := p
    cases entries with
    | nil => rw [List.zip_nil_right, splice?_nil h]; rfl
    | cons entry entries =>
      rw [splice?_cons h]
      cases plugin.registry.nextId with
      | error e => rfl
      | ok id =>
        rw [Option.isSome_map]
        exact ih (by simp [h, Segments.text_cons]) _ _ _

end Splice

theorem isSome_transform? (plugin : Plugin) (source unit : String) :
    (transform? plugin source unit).isSome := by
  have text : source.toList = [] ++ ([] ++ (Segments.ofText source.toList).text) := by simp
  unfold transform?
  dsimp only
  split
  · rfl
  · split
    · rfl
    next entries _ =>
      split
      · rfl
      · have h : (splice? plugin source unit 0 "" ((scan source).zip entries)).isSome :=
          isSome_splice? text plugin unit "" entries
        split
        next hnone =>
          rw [hnone] at h
          cases h
        · rfl
        · rfl

/-- Redirects the imports of the source called `unit`. The answer is the new text, or `none` if
there is nothing to redirect. -/
def transform (plugin : Plugin) (source unit : String) :
    Outcome (Except RedirectError (Option String)) :=
  (transform? plugin source unit).get (isSome_transform? plugin source unit)

/-! ### Serving -/

/-- Claims the module names that open with a registered identifier. -/
def resolve (plugin : Plugin) (specifier : String) : Outcome (Option String) :=
  match openingId? specifier with
  | none => ⟨none, plugin, []⟩
  | some id =>
    if plugin.registry.contains id then
      ⟨virtualName specifier, plugin, [(Event.resolved specifier id).call]⟩
    else ⟨none, plugin, []⟩

/-- Serves the module of a claimed name; what follows the identifier in it does not matter. -/
def load (plugin : Plugin) (name : String) : Outcome (Option String) :=
  match (specifier? name).bind openingId? with
  | none => ⟨none, plugin, []⟩
  | some id =>
    match plugin.registry.get? id with
    | none => ⟨none, plugin, []⟩
    | some entry =>
      ⟨entry.moduleSource, plugin, [(Event.loading id entry.imports.length).call]⟩

end Plugin

end IconImports
