import GlyphFold.Decimal.Shortest
import GlyphFold.Text.Unprintable

/-!
# What is wrong with a JSON text

A text is refused at the first place where it can be told that no continuation would be accepted.
-/

namespace GlyphFold.Json

/-- What stands in the place of a value of another type. -/
inductive Found where
  | null
  | boolean (b : Bool)
  | integer (n : Int)
  | float (x : Float)
  | string (s : String)
  | sequence
  | map
  deriving Repr

/-- The text of a float; one that is not finite has none in JSON. -/
def floatText (x : Float) : String :=
  match Decimal.Binary.ofFloat? x with
  | some b => b.text "+"
  | none => "null"

def Found.describe : Found → String
  | null => "null"
  | boolean b => s!"boolean \x60{b}\x60"
  | integer n => s!"integer \x60{n}\x60"
  | float x => s!"floating point \x60{floatText x}\x60"
  | string s => s!"string {Text.escaped s}"
  | sequence => "sequence"
  | map => "map"

inductive Fault where
  | valueUnfinished
  | listUnfinished
  | objectUnfinished
  | stringUnfinished
  | noValue
  | brokenWord
  | noColon
  | noListEnd
  | noObjectEnd
  | trailingComma
  | trailingCharacters
  | keyNotString
  | invalidNumber
  | numberOutOfRange
  | invalidEscape
  | hexEscapeUnfinished
  | loneSurrogate
  | controlCharacter
  | tooDeep
  | missingField (name : String)
  | duplicateField (name : String)
  | invalidLength (length : Nat) (expected : String)
  | invalidType (found : Found) (expected : String)
  | invalidValue (found : Found) (expected : String)
  deriving Repr

def Fault.message : Fault → String
  | valueUnfinished => "EOF while parsing a value"
  | listUnfinished => "EOF while parsing a list"
  | objectUnfinished => "EOF while parsing an object"
  | stringUnfinished => "EOF while parsing a string"
  | noValue => "expected value"
  | brokenWord => "expected ident"
  | noColon => "expected \x60:\x60"
  | noListEnd => "expected \x60,\x60 or \x60]\x60"
  | noObjectEnd => "expected \x60,\x60 or \x60\x7d\x60"
  | trailingComma => "trailing comma"
  | trailingCharacters => "trailing characters"
  | keyNotString => "key must be a string"
  | invalidNumber => "invalid number"
  | numberOutOfRange => "number out of range"
  | invalidEscape => "invalid escape"
  | hexEscapeUnfinished => "unexpected end of hex escape"
  | loneSurrogate => "lone leading surrogate in hex escape"
  | controlCharacter => "control character (\\u0000-\\u001F) found while parsing a string"
  | tooDeep => "recursion limit exceeded"
  | missingField name => s!"missing field \x60{name}\x60"
  | duplicateField name => s!"duplicate field \x60{name}\x60"
  | invalidLength length expected => s!"invalid length {length}, expected {expected}"
  | invalidType found expected => s!"invalid type: {found.describe}, expected {expected}"
  | invalidValue found expected => s!"invalid value: {found.describe}, expected {expected}"

end GlyphFold.Json
