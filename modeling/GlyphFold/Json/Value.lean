import GlyphFold.Json.Fault

/-!
# JSON values and their texts

Members keep their order. `pretty` puts each item on a line of its own, indented by two blanks for
each level; `compact` writes no blank at all. Both escape only what a JSON string cannot hold.
-/

namespace GlyphFold.Json

inductive Value where
  | null
  | boolean (b : Bool)
  | integer (n : Int)
  | float (x : Float)
  | string (s : String)
  | list (items : List Value)
  | object (members : List (String × Value))
  deriving Repr

namespace Value

def natural (n : Nat) : Value := integer n

/-- How a value is named where another type is expected. -/
def found : Value → Found
  | null => .null
  | boolean b => .boolean b
  | integer n => .integer n
  | float x => .float x
  | string s => .string s
  | list _ => .sequence
  | object _ => .map

end Value

/-! ## Strings -/

/-- The text of a character inside a string. -/
def escapeChar (c : Char) : List Char :=
  match c with
  | '"' => ['\\', '"']
  | '\\' => ['\\', '\\']
  | '\x08' => ['\\', 'b']
  | '\t' => ['\\', 't']
  | '\n' => ['\\', 'n']
  | '\x0c' => ['\\', 'f']
  | '\r' => ['\\', 'r']
  | c =>
    if c.toNat < 0x20 then
      ['\\', 'u', '0', '0', Nat.digitChar (c.toNat / 16), Nat.digitChar (c.toNat % 16)]
    else [c]

def encodeChars (cs : List Char) : List Char := cs.flatMap escapeChar

@[simp] theorem encodeChars_nil : encodeChars [] = [] := rfl

@[simp] theorem encodeChars_cons (c : Char) (cs : List Char) :
    encodeChars (c :: cs) = escapeChar c ++ encodeChars cs := by simp [encodeChars]

def quoted (s : String) : List Char := '"' :: encodeChars s.toList ++ ['"']

/-! ## Values -/

mutual

def compactChars : Value → List Char
  | .null => "null".toList
  | .boolean b => (toString b).toList
  | .integer n => (toString n).toList
  | .float x => (floatText x).toList
  | .string s => quoted s
  | .list items => '[' :: compactItems items ++ [']']
  | .object members => '\x7b' :: compactMembers members ++ ['\x7d']

def compactItems : List Value → List Char
  | [] => []
  | [v] => compactChars v
  | v :: vs => compactChars v ++ ',' :: compactItems vs

def compactMembers : List (String × Value) → List Char
  | [] => []
  | [(k, v)] => quoted k ++ ':' :: compactChars v
  | (k, v) :: ms => quoted k ++ ':' :: compactChars v ++ ',' :: compactMembers ms

end

/-- The start of a line at a level of nesting. -/
def newLine (level : Nat) : List Char := '\n' :: List.replicate (2 * level) ' '

mutual

/-- The text of a value whose line starts at a level of nesting. -/
def prettyChars (level : Nat) : Value → List Char
  | .list [] => ['[', ']']
  | .list (v :: vs) => '[' :: prettyItems (level + 1) (v :: vs) ++ newLine level ++ [']']
  | .object [] => ['\x7b', '\x7d']
  | .object (m :: ms) =>
    '\x7b' :: prettyMembers (level + 1) (m :: ms) ++ newLine level ++ ['\x7d']
  | .null => compactChars .null
  | .boolean b => compactChars (.boolean b)
  | .integer n => compactChars (.integer n)
  | .float x => compactChars (.float x)
  | .string s => compactChars (.string s)

def prettyItems (level : Nat) : List Value → List Char
  | [] => []
  | [v] => newLine level ++ prettyChars level v
  | v :: vs => newLine level ++ prettyChars level v ++ ',' :: prettyItems level vs

def prettyMembers (level : Nat) : List (String × Value) → List Char
  | [] => []
  | [(k, v)] => newLine level ++ quoted k ++ ':' :: ' ' :: prettyChars level v
  | (k, v) :: ms =>
    newLine level ++ quoted k ++ ':' :: ' ' :: prettyChars level v ++ ',' :: prettyMembers level ms

end

namespace Value

/-- The text of a value on one line. -/
def compact (v : Value) : String := String.ofList (compactChars v)

/-- The text of a value over several lines. -/
def pretty (v : Value) : String := String.ofList (prettyChars 0 v)

end Value

end GlyphFold.Json
