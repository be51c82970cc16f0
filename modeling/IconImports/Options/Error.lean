import IconImports.Text.Extent
import IconImports.Text.Printable

/-!
# What can be wrong with a text of options

A `Fault` is the cause, and an `OptionsError` is a cause with the place at which reading stopped. A
text that is shown in its wording is `quoted`: on one line, with escapes for what cannot be shown.
-/

namespace IconImports

def quotedChar (c : Char) : List Char :=
  if c = '"' then ['\\', '"']
  else if c = '\\' then ['\\', '\\']
  else if c = '\n' then ['\\', 'n']
  else if c = '\r' then ['\\', 'r']
  else if c = '\t' then ['\\', 't']
  else if c = '\x00' then ['\\', '0']
  else if isPrintable c then [c]
  else ['\\', 'u', '\x7b'] ++ Nat.toDigits 16 c.toNat ++ ['\x7d']

def quoted (s : List Char) : List Char := '"' :: s.flatMap quotedChar ++ ['"']

/-- A value that stands where another kind of value belongs. -/
inductive Found
  | null
  | boolean (value : Bool)
  | integer (value : Int)
  /-- A number that is not a 64-bit integer, in its shortest decimal form. -/
  | decimal (text : String)
  | string (value : String)
  | sequence
  | map
  deriving DecidableEq

def Found.description : Found → String
  | null => "null"
  | boolean value => s!"boolean `{value}`"
  | integer value => s!"integer `{value}`"
  | decimal text => s!"floating point `{text}`"
  | string value => s!"string {String.ofList (quoted value.toList)}"
  | sequence => "sequence"
  | map => "map"

/-- The kinds of value that options are made of. -/
inductive Expected
  | boolean
  | options
  deriving DecidableEq

def Expected.description : Expected → String
  | boolean => "a boolean"
  | options => "struct HelperOptions"

/-- Why a text holds no options. -/
inductive Fault
  | endInValue
  | endInObject
  | endInList
  | endInString
  | expectedValue
  | expectedWord
  | expectedColon
  | expectedCommaOrBrace
  | keyIsNoString
  | trailingComma
  | trailingCharacters
  | invalidNumber
  | numberOutOfRange
  | controlCharacter
  | invalidEscape
  | unfinishedPair
  | loneSurrogate
  | wrongType (found : Found) (expected : Expected)
  | unknownField (name : String)
  | duplicateField
  deriving DecidableEq

/-- The three families of faults: the text ends too soon, it is no JSON text, or it is one of the
wrong shape. -/
inductive Fault.Category
  | incomplete
  | malformed
  | misshapen
  deriving DecidableEq

namespace Fault

def category : Fault → Category
  | endInValue | endInObject | endInList | endInString => .incomplete
  | wrongType .. | unknownField .. | duplicateField => .misshapen
  | _ => .malformed

def message : Fault → String
  | endInValue => "EOF while parsing a value"
  | endInObject => "EOF while parsing an object"
  | endInList => "EOF while parsing a list"
  | endInString => "EOF while parsing a string"
  | expectedValue => "expected value"
  | expectedWord => "expected ident"
  | expectedColon => "expected `:`"
  | expectedCommaOrBrace => "expected `,` or `\x7d`"
  | keyIsNoString => "key must be a string"
  | trailingComma => "trailing comma"
  | trailingCharacters => "trailing characters"
  | invalidNumber => "invalid number"
  | numberOutOfRange => "number out of range"
  | controlCharacter => "control character (\\u0000-\\u001F) found while parsing a string"
  | invalidEscape => "invalid escape"
  | unfinishedPair => "unexpected end of hex escape"
  | loneSurrogate => "lone leading surrogate in hex escape"
  | wrongType found expected =>
    s!"invalid type: {found.description}, expected {expected.description}"
  | unknownField name => s!"unknown field `{name}`, expected `enabled`"
  | duplicateField => "duplicate field `enabled`"

end Fault

structure OptionsError where
  fault : Fault
  position : Position
  deriving DecidableEq

def OptionsError.message (e : OptionsError) : String :=
  s!"{e.fault.message} at line {e.position.line} column {e.position.column}"

/-- Where reading stopped: the fault, and the number of bytes that were left to read. -/
structure Stop where
  fault : Fault
  left : Nat
  deriving DecidableEq

namespace Stop

/-- A stop in front of the rest `s`. -/
def before (fault : Fault) (s : List Char) : Stop := ⟨fault, byteLength s⟩

/-- A stop that counts the first byte of the rest `s` as read, if there is one. -/
def within (fault : Fault) (s : List Char) : Stop := ⟨fault, byteLength s - 1⟩

def toError (stop : Stop) (text : List Char) : OptionsError :=
  ⟨stop.fault, .ofOffset text (byteLength text - stop.left)⟩

end Stop

end IconImports
