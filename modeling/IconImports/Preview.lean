import IconImports.FileSystem
import IconImports.Plugin
import IconImports.Report

/-!
# Previews

A preview does with one plugin what a host would do: it transforms every source in order, and then,
if asked to, resolves and loads the virtual module of every redirected statement. It stops at the
first failure; what was registered until then stays registered.
-/

namespace IconImports

inductive PreviewError
  | unreadable (path : String) (cause : ReadError)
  | untransformed (unit : String) (cause : RedirectError)
  | unclaimed (specifier : String)
  | unloaded (specifier : String)
  deriving DecidableEq

def PreviewError.message : PreviewError → String
  | unreadable path cause => s!"Failed to read {path}: {cause.message}"
  | untransformed unit cause => s!"Failed to transform {unit}: {cause.message}"
  | unclaimed specifier => s!"{specifier} was not claimed by the helper"
  | unloaded specifier => s!"{specifier} could not be loaded"

namespace Plugin

def transformAll (plugin : Plugin) :
    List (String × String) → Outcome (Except PreviewError (List FileReport))
  | [] => ⟨.ok [], plugin, []⟩
  | (unit, source) :: sources =>
    let first := plugin.transform source unit
    match first.answer with
    | .error e => ⟨.error (.untransformed unit e), first.plugin, first.calls⟩
    | .ok code =>
      let others := first.plugin.transformAll sources
      ⟨others.answer.map (⟨unit, code⟩ :: ·), others.plugin, first.calls ++ others.calls⟩

/-- Resolves a module name and loads what it resolves to. -/
def emit (plugin : Plugin) (specifier : String) : Outcome (Except PreviewError ModuleReport) :=
  let resolved := plugin.resolve specifier
  match resolved.answer with
  | none => ⟨.error (.unclaimed specifier), resolved.plugin, resolved.calls⟩
  | some resolvedId =>
    let loaded := resolved.plugin.load resolvedId
    match loaded.answer with
    | none =>
      ⟨.error (.unloaded specifier), loaded.plugin, resolved.calls ++ loaded.calls⟩
    | some source =>
      ⟨.ok ⟨specifier, resolvedId, source⟩, loaded.plugin, resolved.calls ++ loaded.calls⟩

def emitAll (plugin : Plugin) :
    List String → Outcome (Except PreviewError (List ModuleReport))
  | [] => ⟨.ok [], plugin, []⟩
  | specifier :: specifiers =>
    let first := plugin.emit specifier
    match first.answer with
    | .error e => ⟨.error e, first.plugin, first.calls⟩
    | .ok module =>
      let others := first.plugin.emitAll specifiers
      ⟨others.answer.map (module :: ·), others.plugin, first.calls ++ others.calls⟩

end Plugin

/-- The module name by which a redirected statement imports an entry. -/
def Entry.specifier (id : ModuleId) (entry : Entry) : String :=
  match entry.target.variant? with
  | some variant => s!"{id.text}/{variant}"
  | none => id.text

/-- The module names of the entries after the first `known`. -/
def Registry.specifiersFrom (r : Registry) (known : Nat) : List String :=
  (r.toList.drop known).map fun p => p.2.specifier p.1

namespace Plugin

/-- The report on sources, each given by its unit and its text. With `emitModules` it shows the
modules of the statements redirected here, and otherwise no modules. -/
def preview (plugin : Plugin) (sources : List (String × String)) (emitModules : Bool) :
    Outcome (Except PreviewError Report) :=
  let transformed := plugin.transformAll sources
  match transformed.answer with
  | .error e => ⟨.error e, transformed.plugin, transformed.calls⟩
  | .ok files =>
    let specifiers :=
      if emitModules then transformed.plugin.registry.specifiersFrom plugin.registry.size else []
    let emitted := transformed.plugin.emitAll specifiers
    ⟨emitted.answer.map (⟨files, ·⟩), emitted.plugin, transformed.calls ++ emitted.calls⟩

end Plugin

/-- The texts of files, each with the path as it was given. The first file that cannot be read is
the error. -/
def FileSystem.readAll (fs : FileSystem) (paths : List Path) :
    Except PreviewError (List (String × String)) :=
  paths.mapM fun path =>
    match fs.read path with
    | .error e => .error (.unreadable path.text e)
    | .ok text => .ok (path.text, text)

/-- The report on files. All of them are read before the first one is transformed. -/
def Plugin.previewFiles (plugin : Plugin) (fs : FileSystem) (paths : List Path)
    (emitModules : Bool) : Outcome (Except PreviewError Report) :=
  match fs.readAll paths with
  | .error e => ⟨.error e, plugin, []⟩
  | .ok sources => plugin.preview sources emitModules

end IconImports
