import IconImports.FileSystem
import IconImports.Options.Scalar

/-!
# Options

`Options` say whether the plugin is enabled. As a text they are a JSON object with at most the
field `enabled`, or a JSON array of at most that one value; without it the plugin is enabled.
`Options.ofJson` reads such a text, and refuses every other one with the fault and its place.
`Options.load` reads the text of a file.
-/

namespace IconImports

structure Options where
  enabled : Bool
  deriving DecidableEq

namespace Options

/-- What holds where nothing is said. -/
def default : Options := ⟨true⟩

def disabled : Options := ⟨false⟩

def fieldName : String := "enabled"

def readBoolean (s : List Char) : Except Stop (Bool × List Char) := do
  match skipSpace s with
  | [] => throw (.within .endInValue [])
  | 't' :: s => return (true, ← readWord ['r', 'u', 'e'] s)
  | 'f' :: s => return (false, ← readWord ['a', 'l', 's', 'e'] s)
  | s =>
    let (found, s) ← readFound s
    throw (.before (.wrongType found .boolean) s)

/-- The stop at a key that must not be there. The object is closed, if it can be, before the place
is taken. -/
def stopAfterKey (fault : Fault) (s : List Char) : Stop :=
  match skipSpace s with
  | '\x7d' :: s => .before fault s
  | s => .before fault s

/-- Reads what follows the value of the field: the end of the object, since no other field can
follow. -/
def readAfterField (enabled : Bool) (s : List Char) : Except Stop (Options × List Char) := do
  match skipSpace s with
  | [] => throw (.within .endInObject [])
  | '\x7d' :: s => return (⟨enabled⟩, s)
  | ',' :: s =>
    match skipSpace s with
    | [] => throw (.within .endInValue [])
    | '"' :: s =>
      let (key, s) ← readString [] s
      throw (stopAfterKey (if key = fieldName then .duplicateField else .unknownField key) s)
    | '\x7d' :: s => throw (.within .trailingComma ('\x7d' :: s))
    | s => throw (.within .keyIsNoString s)
  | s => throw (.within .expectedCommaOrBrace s)

def readObject (s : List Char) : Except Stop (Options × List Char) := do
  match skipSpace s with
  | [] => throw (.within .endInObject [])
  | '\x7d' :: s => return (default, s)
  | '"' :: s =>
    let (key, s) ← readString [] s
    if key = fieldName then
      match skipSpace s with
      | [] => throw (.within .endInObject [])
      | ':' :: s =>
        let (enabled, s) ← readBoolean s
        readAfterField enabled s
      | s => throw (.within .expectedColon s)
    else throw (stopAfterKey (.unknownField key) s)
  | s => throw (.within .keyIsNoString s)

/-- Reads what follows the element of an array: its end. -/
def readAfterElement (enabled : Bool) (s : List Char) : Except Stop (Options × List Char) := do
  match skipSpace s with
  | [] => throw (.within .endInList [])
  | ']' :: s => return (⟨enabled⟩, s)
  | ',' :: s =>
    match skipSpace s with
    | ']' :: s => throw (.within .trailingComma (']' :: s))
    | s => throw (.within .trailingCharacters s)
  | s => throw (.within .trailingCharacters s)

def readArray (s : List Char) : Except Stop (Options × List Char) := do
  match skipSpace s with
  | [] => throw (.within .endInList [])
  | ']' :: s => return (default, s)
  | s =>
    let (enabled, s) ← readBoolean s
    readAfterElement enabled s

def readValue (s : List Char) : Except Stop (Options × List Char) := do
  match skipSpace s with
  | [] => throw (.within .endInValue [])
  | '\x7b' :: s => readObject s
  | '[' :: s => readArray s
  | s =>
    let (found, s) ← readFound s
    throw (.before (.wrongType found .options) s)

def readText (s : List Char) : Except Stop Options := do
  let (options, s) ← readValue s
  match skipSpace s with
  | [] => return options
  | s => throw (.within .trailingCharacters s)

def ofJson (text : String) : Except OptionsError Options :=
  (readText text.toList).mapError (·.toError text.toList)

/-! ### Options in a file -/

inductive LoadError
  | unreadable (cause : ReadError)
  | invalid (cause : OptionsError)
  deriving DecidableEq

def LoadError.message : LoadError → String
  | unreadable cause => cause.message
  | invalid cause => cause.message

def load (fs : FileSystem) (path : Path) : Except LoadError Options :=
  match fs.read path with
  | .error e => .error (.unreadable e)
  | .ok text => (ofJson text).mapError .invalid

end Options

end IconImports
