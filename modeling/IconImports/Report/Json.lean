import IconImports.Report

/-!
# Reports as JSON documents

`Report.toJson` writes a report as an object with the keys `files` and `modules`. Every element
and every member has a line of its own, two blanks further in than what it belongs to.
-/

namespace IconImports

namespace Json

/-- The escape of a character within a string: a letter of its own for some, otherwise four
hexadecimal digits for control characters, and for all else the character itself. -/
def escape (c : Char) : List Char :=
  if c = '"' then ['\\', '"']
  else if c = '\\' then ['\\', '\\']
  else if c = '\x08' then ['\\', 'b']
  else if c = '\x0c' then ['\\', 'f']
  else if c = '\n' then ['\\', 'n']
  else if c = '\r' then ['\\', 'r']
  else if c = '\t' then ['\\', 't']
  else if c.toNat < 0x20 then
    ['\\', 'u', '0', '0', Nat.digitChar (c.toNat / 16), Nat.digitChar (c.toNat % 16)]
  else [c]

def string (s : String) : List Char := '"' :: s.toList.flatMap escape ++ ['"']

def optional : Option String → List Char
  | none => ['n', 'u', 'l', 'l']
  | some s => string s

def newLine (depth : Nat) : List Char := '\n' :: List.replicate (2 * depth) ' '

/-- Items between brackets, each on a line of its own; without items only the brackets. -/
def block (depth : Nat) (opening closing : Char) : List (List Char) → List Char
  | [] => [opening, closing]
  | items =>
    opening :: ([','].intercalate (items.map (newLine (depth + 1) ++ ·)) ++
      newLine depth ++ [closing])

def member (key : String) (value : List Char) : List Char := string key ++ [':', ' '] ++ value

def object (depth : Nat) (members : List (List Char)) : List Char :=
  block depth '\x7b' '\x7d' members

def array (depth : Nat) (elements : List (List Char)) : List Char :=
  block depth '[' ']' elements

end Json

def FileReport.toJson (depth : Nat) (file : FileReport) : List Char :=
  Json.object depth
    [Json.member "path" (Json.string file.path), Json.member "code" (Json.optional file.code)]

def ModuleReport.toJson (depth : Nat) (module : ModuleReport) : List Char :=
  Json.object depth
    [Json.member "specifier" (Json.string module.specifier),
      Json.member "resolvedId" (Json.string module.resolvedId),
      Json.member "source" (Json.string module.source)]

/-- The report as a JSON document, without a line feed at its end. -/
def Report.toJson (report : Report) : String :=
  String.ofList <| Json.object 0
    [Json.member "files" (Json.array 1 (report.files.map (·.toJson 2))),
      Json.member "modules" (Json.array 1 (report.modules.map (·.toJson 2)))]

end IconImports
