import IconImports.Glob
import IconImports.Preview
import IconImports.Proofs.List.Mapped

/-!
# Previews of files

The files of a preview are read one after the other, and then the plugin is asked to transform what
they hold. So a file that cannot be read comes before everything that could be wrong with the imports
of any file, also of one that stands before it.

The main statement: `previewFiles_reads_first`.
-/

namespace IconImports

/-- The sources are the texts of the files, each under the path of its file. -/
def FileSystem.Holds (fs : FileSystem) (paths : List Path) (sources : List (String × String)) : Prop :=
  List.Forall₂ (fun path source => source.1 = path.text ∧ fs.read path = .ok source.2) paths sources

namespace FileSystem

variable {fs : FileSystem} {paths : List Path} {sources : List (String × String)}

theorem readAll_eq_ok_iff : fs.readAll paths = .ok sources ↔ fs.Holds paths sources := by
  rw [readAll, mapM_eq_ok_iff_forall₂, Holds]
  apply iff_of_eq
  congr 1
  funext path source
  rw [eq_iff_iff]
  cases fs.read path with
  | error e => exact ⟨nofun, nofun⟩
  | ok text =>
    constructor
    · rintro ⟨rfl⟩
      exact ⟨rfl, rfl⟩
    · rintro ⟨hpath, htext⟩
      exact congrArg _ (Prod.ext hpath.symm (Except.ok.inj htext))

theorem exists_holds (h : ∀ path ∈ paths, ∃ text, fs.read path = .ok text) :
    ∃ sources, fs.Holds paths sources := by
  have read : ∃ sources, fs.readAll paths = .ok sources := by
    apply exists_mapM_eq_ok
    intro path hpath
    obtain ⟨text, htext⟩ := h path hpath
    exact ⟨(path.text, text), by rw [htext]⟩
  obtain ⟨sources, hsources⟩ := read
  exact ⟨sources, readAll_eq_ok_iff.1 hsources⟩

theorem readAll_append_cons {before after : List Path} {path : Path} {cause : ReadError}
    (h : ∀ p ∈ before, ∃ text, fs.read p = .ok text) (failed : fs.read path = .error cause) :
    fs.readAll (before ++ path :: after) = .error (.unreadable path.text cause) := by
  apply mapM_append_cons_eq_error
  · intro p hp
    obtain ⟨text, htext⟩ := h p hp
    exact ⟨(p.text, text), by rw [htext]⟩
  · rw [failed]

end FileSystem

namespace Plugin

/-- A preview of files that can all be read is that of their texts. Otherwise it comes to the first
file that cannot be read, whatever stands in the files before it, and leaves the plugin alone. -/
theorem previewFiles_reads_first (plugin : Plugin) (fs : FileSystem) (paths : List Path)
    (emitModules : Bool) :
    ((∀ path ∈ paths, ∃ text, fs.read path = .ok text) → ∃ sources, fs.Holds paths sources ∧
        plugin.previewFiles fs paths emitModules = plugin.preview sources emitModules) ∧
      ∀ before path after cause, paths = before ++ path :: after →
        (∀ p ∈ before, ∃ text, fs.read p = .ok text) → fs.read path = .error cause →
        plugin.previewFiles fs paths emitModules =
          ⟨.error (.unreadable path.text cause), plugin, []⟩ := by
  constructor
  · intro readable
    obtain ⟨sources, holds⟩ := FileSystem.exists_holds readable
    refine ⟨sources, holds, ?_⟩
    rw [previewFiles, FileSystem.readAll_eq_ok_iff.2 holds]
  · rintro before path after cause rfl readable failed
    rw [previewFiles, FileSystem.readAll_append_cons readable failed]

example (plugin : Plugin) (emitModules : Bool) :
    let bad : FileTree.Node := .file (.text "import \x7b + \x7d from 'maic'")
    let tree : FileTree :=
      ⟨.full, [("home", .directory .full [("a.js", bad)]), ("b.js", .file .locked)], ["home"]⟩
    plugin.previewFiles tree.fileSystem [⟨"a.js"⟩, ⟨"/b.js"⟩] emitModules =
      ⟨.error (.unreadable "/b.js" .permissionDenied), plugin, []⟩ := by
  rfl

end Plugin

end IconImports
