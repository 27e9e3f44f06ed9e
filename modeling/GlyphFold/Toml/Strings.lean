import GlyphFold.Toml.Value

/-!
# Reading TOML: blanks, strings and keys

A reader takes what it reads off the front of a text, or fails and leaves the text as it was.

1. `one`, `exactly`, `many`, `sepBy1`: the combinators
2. `blanks`, `lineEnd`, `restOfLine`, `gap`: what says nothing
3. `basicString`, `literalString`, `multiLine`: the four kinds of strings
4. `key`: dotted keys
-/

namespace GlyphFold.Toml

abbrev Reader (α : Type) := StateT (List Char) Option α

namespace Reader

/-! ## Combinators -/

/-- One character of a class. -/
def one (accepts : Char → Bool) : Reader Char := do
  match ← get with
  | c :: rest => if accepts c then do set rest; return c else failure
  | [] => failure

/-- The given text. -/
def exactly (s : String) : Reader Unit := do
  let cs ← get
  if s.toList.isPrefixOf cs then set (cs.drop s.length) else failure

/-- All the characters ahead that are of a class. -/
def whileOf (accepts : Char → Bool) : Reader (List Char) :=
  modifyGet fun cs => (cs.takeWhile accepts, cs.dropWhile accepts)

/-- Reads as often as it can, at most `bound` times. -/
def manyUpTo {α : Type} (bound : Nat) (r : Reader α) : Reader (List α) :=
  match bound with
  | 0 => pure []
  | bound + 1 => (do return (← r) :: (← manyUpTo bound r)) <|> pure []

/-- Reads as often as it can; `r` takes a character at least. -/
def many {α : Type} (r : Reader α) : Reader (List α) := do manyUpTo (← get).length r

def maybe {α : Type} (r : Reader α) : Reader (Option α) := (do return some (← r)) <|> pure none

/-- One or more, with separators between them. -/
def sepBy1 {α : Type} (r : Reader α) (separator : Reader Unit) : Reader (List α) := do
  return (← r) :: (← many (do separator; r))

/-- The characters that a reader takes. -/
def taken (r : Reader Unit) : Reader (List Char) := do
  let before ← get
  r
  return before.take (before.length - (← get).length)

/-! ## Blanks -/

def isBlank (c : Char) : Bool := c = ' ' || c = '\t'

/-- No control character but the tab. -/
def isPlain (c : Char) : Bool := c = '\t' || (' ' ≤ c && c ≠ '\x7f')

def blanks : Reader Unit := do let _ ← whileOf isBlank

def newline : Reader Unit := exactly "\n" <|> exactly "\r\n"

def comment : Reader Unit := do
  exactly "#"
  let _ ← whileOf isPlain

def atEnd : Reader Unit := do if (← get).isEmpty then pure () else failure

/-- A line ends, or the text. -/
def lineEnd : Reader Unit := newline <|> atEnd

/-- Nothing but blanks and a comment before the line ends. -/
def restOfLine : Reader Unit := do
  blanks
  let _ ← maybe comment
  lineEnd

/-- Blanks, line breaks and comments. -/
def gap : Reader Unit := do
  blanks
  let _ ← many do
    let _ ← maybe comment
    newline
    blanks

/-! ## Strings -/

def hexValue (digits : List Char) : Nat :=
  digits.foldl (fun n d =>
    16 * n + (if d.isDigit then d.toNat - '0'.toNat else d.toLower.toNat - 'a'.toNat + 10)) 0

def isHexDigit (c : Char) : Bool := c.isDigit || ('a' ≤ c.toLower && c.toLower ≤ 'f')

/-- The character of a number of hexadecimal digits. -/
def codePoint (digits : Nat) : Reader Char := do
  let read ← (List.replicate digits (one isHexDigit)).mapM id
  let n := hexValue read
  if n.isValidChar then return Char.ofNat n else failure

def escape : Reader Char := do
  exactly "\\"
  match ← one fun _ => true with
  | 'b' => return '\x08'
  | 't' => return '\t'
  | 'n' => return '\n'
  | 'f' => return '\x0c'
  | 'r' => return '\r'
  | '"' => return '"'
  | '\\' => return '\\'
  | 'u' => codePoint 4
  | 'U' => codePoint 8
  | _ => failure

def isBasic (c : Char) : Bool := isPlain c && c ≠ '"' && c ≠ '\\'

def isLiteral (c : Char) : Bool := isPlain c && c ≠ '\''

def basicString : Reader String := do
  exactly "\""
  let cs ← many (one isBasic <|> escape)
  exactly "\""
  return String.ofList cs

def literalString : Reader String := do
  exactly "'"
  let cs ← whileOf isLiteral
  exactly "'"
  return String.ofList cs

/-- One or two quotes that do not end a string. -/
def innerQuotes (quote : Char) : Reader (List Char) := do
  let quotes ← whileOf (· = quote)
  if 0 < quotes.length && quotes.length < 3 then return quotes else failure

/-- A string over several lines, whose text is read piece by piece. A line break behind the opening
quotes is no part of it; of up to five quotes at the end the last three close it. -/
def multiLine (quote : Char) (piece : Reader (List Char)) : Reader String := do
  exactly (String.ofList [quote, quote, quote])
  let _ ← maybe newline
  let pieces ← many (piece <|> innerQuotes quote)
  let quotes ← whileOf (· = quote)
  if 3 ≤ quotes.length && quotes.length ≤ 5 then
    return String.ofList (pieces.flatten ++ quotes.drop 3)
  else failure

/-- A line break, which is written as a line feed whatever it is. -/
def lineBreak : Reader (List Char) := do
  newline
  return ['\n']

/-- A backslash at the end of a line, with the blanks and line breaks behind it. -/
def foldedLine : Reader (List Char) := do
  exactly "\\"
  blanks
  newline
  let _ ← many (newline <|> do let _ ← one isBlank)
  return []

def basicPiece : Reader (List Char) :=
  (do return [← one isBasic]) <|> lineBreak <|> foldedLine <|> (do return [← escape])

def literalPiece : Reader (List Char) := (do return [← one isLiteral]) <|> lineBreak

def string : Reader String :=
  multiLine '"' basicPiece <|> basicString <|> multiLine '\'' literalPiece <|> literalString

/-! ## Keys -/

def isBare (c : Char) : Bool := c.isAlphanum || c = '-' || c = '_'

def simpleKey : Reader String := basicString <|> literalString <|> do
  let cs ← whileOf isBare
  if cs.isEmpty then failure else return String.ofList cs

/-- One more than the number of nested values, and of the parts of a key, that are read. -/
def nestingLimit : Nat := 80

/-- A dotted key: its first parts and its last. -/
def key : Reader (List String × String) := do
  let parts ← sepBy1 (do blanks; let k ← simpleKey; blanks; return k) (exactly ".")
  match parts.reverse with
  | last :: first => if parts.length < nestingLimit then return (first.reverse, last) else failure
  | [] => failure

end Reader

end GlyphFold.Toml
