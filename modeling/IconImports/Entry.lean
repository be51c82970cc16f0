import IconImports.Statement

/-!
# What a statement asks for

An `Entry` holds the names that one import statement asks for, and where they live. Its
`moduleSource` is the module that provides them: one re-export a line, and no line feed at the end.
-/

namespace IconImports

/-- Where imported names live. -/
inductive Target
  /-- One variant of the package, which holds a module for each icon. -/
  | variant (name : String)
  /-- The package itself, whose names are its variants. -/
  | bare
  deriving DecidableEq

namespace Target

/-- The target of a statement; a variant without a name counts as none. -/
def ofVariant : Option String → Target
  | none => bare
  | some name => if name = "" then bare else variant name

def variant? : Target → Option String
  | variant name => some name
  | bare => none

theorem variant?_inj {target target' : Target} :
    target.variant? = target'.variant? ↔ target = target' := by
  cases target <;> cases target' <;> simp [variant?]

theorem variant?_ofVariant_eq_some_iff {variant : Option String} {v : String} :
    (ofVariant variant).variant? = some v ↔ variant = some v ∧ v ≠ "" := by
  unfold ofVariant
  split
  · simp [variant?]
  next name =>
    split
    next h => simp [variant?, h, eq_comm]
    next h =>
      simp only [variant?, Option.some.injEq]
      exact ⟨fun e => ⟨e, e ▸ h⟩, And.left⟩

/-- The line that re-exports `name`: the default of an icon's module, or all of a variant. -/
def reexport : Target → String → String
  | variant v, name =>
    s!"export \x7b default as {name} \x7d from '{packageName}/{v}/{name}.js';"
  | bare, name => s!"export * from '{packageName}/{name}/index.js';"

theorem reexport_variant (v name : String) :
    (variant v).reexport name = "export \x7b default as " ++ name ++ " \x7d from '" ++ packageName ++
      "/" ++ v ++ "/" ++ name ++ ".js';" := rfl

theorem reexport_bare (name : String) :
    bare.reexport name = "export * from '" ++ packageName ++ "/" ++ name ++ "/index.js';" := rfl

end Target

structure Entry where
  target : Target
  imports : List String
  deriving DecidableEq

/-- The text of the module that provides what the entry asks for. -/
def Entry.moduleSource (entry : Entry) : String :=
  "\n".intercalate (entry.imports.map entry.target.reexport)

end IconImports
