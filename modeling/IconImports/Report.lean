/-!
# Reports

A `Report` lists the files of a preview, with the new text of those that were changed, and the
virtual modules that a host would load for them. `Report.toText` shows it to a reader.
-/

namespace IconImports

structure FileReport where
  path : String
  /-- The new text, if there was something to redirect. -/
  code : Option String
  deriving DecidableEq

structure ModuleReport where
  specifier : String
  resolvedId : String
  source : String
  deriving DecidableEq

structure Report where
  files : List FileReport
  modules : List ModuleReport
  deriving DecidableEq

/-- The text with a line feed at its end, which is added only if there is none. -/
def withLineFeed (text : String) : String :=
  if text.toList.getLast? = some '\n' then text else text ++ "\n"

/-- A file under a heading with its path; of an unchanged file there is only the heading. -/
def FileReport.toText (file : FileReport) : String :=
  match file.code with
  | some code => s!"// File: {file.path}\n{withLineFeed code}"
  | none => s!"// File: {file.path} (unchanged)\n"

def ModuleReport.toText (module : ModuleReport) : String :=
  s!"// Module: {module.specifier}\n{module.source}\n"

def Report.toText (report : Report) : String :=
  String.join (report.files.map FileReport.toText) ++
    String.join (report.modules.map ModuleReport.toText)

end IconImports
