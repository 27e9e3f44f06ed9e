import GlyphFold.Json.Value
import GlyphFold.Yaml.Scalar

/-!
# Values as YAML

Maps are indented by two blanks, lists in a map are not, and an empty one is written in brackets. A
name that is long or holds a line break stands behind a question mark.
-/

namespace GlyphFold.Yaml

open Json (Value)

def floatText (x : Float) : String :=
  match Decimal.Binary.ofFloat? x with
  | some b => b.text ""
  | none => if x.isNaN then ".nan" else if x < 0 then "-.inf" else ".inf"

/-- Ends the line of a text that does not end it itself. -/
def endLine (cs : List Char) : List Char := if cs.getLast?.any isBreak then cs else cs ++ ['\n']

/-- A name and its colon, where the map is indented by `level`. -/
def keyChars (level : Nat) (name : String) : List Char :=
  let scalar := scalarChars (level + 2) name
  if isSimpleKey name then scalar ++ [':']
  else '?' :: ' ' :: endLine scalar ++ indentation level ++ [':']

mutual

/-- A value behind the colon of a member of a map that is indented by `level`, up to the end of its
last line. -/
def memberChars (level : Nat) : Value → List Char
  | .list [] => " []\n".toList
  | .list (v :: vs) => '\n' :: itemsChars level (v :: vs)
  | .object [] => " \x7b\x7d\n".toList
  | .object (m :: ms) => '\n' :: mapChars (level + 2) true (m :: ms)
  | .null => " null\n".toList
  | .boolean b => ' ' :: (toString b).toList ++ ['\n']
  | .integer n => ' ' :: (toString n).toList ++ ['\n']
  | .float x => ' ' :: (floatText x).toList ++ ['\n']
  | .string s => ' ' :: endLine (scalarChars (level + 2) s)

/-- The items of a list, behind dashes. -/
def itemsChars (level : Nat) : List Value → List Char
  | [] => []
  | v :: vs => indentation level ++ '-' :: itemChars level v ++ itemsChars level vs

/-- An item behind its dash; a map begins on the same line. -/
def itemChars (level : Nat) : Value → List Char
  | .object (m :: ms) => ' ' :: mapChars (level + 2) false (m :: ms)
  | .list (v :: vs) => ' ' :: itemsChars (level + 2) (v :: vs)
  | .list [] => " []\n".toList
  | .object [] => " \x7b\x7d\n".toList
  | .null => " null\n".toList
  | .boolean b => ' ' :: (toString b).toList ++ ['\n']
  | .integer n => ' ' :: (toString n).toList ++ ['\n']
  | .float x => ' ' :: (floatText x).toList ++ ['\n']
  | .string s => ' ' :: endLine (scalarChars (level + 2) s)

/-- The members of a map, the first of them at the start of a line or not. -/
def mapChars (level : Nat) (newLine : Bool) : List (String × Value) → List Char
  | [] => []
  | (k, v) :: ms =>
    (if newLine then indentation level else []) ++ keyChars level k ++ memberChars level v ++
      mapChars level true ms

end

/-- The text of a value over several lines. -/
def text (v : Value) : String :=
  match v with
  | .object (m :: ms) => String.ofList (mapChars 0 true (m :: ms))
  | v => String.ofList (itemChars 0 v)

end GlyphFold.Yaml
