import GlyphFold.Text.Bytes
import GlyphFold.Yaml.Ambiguous

/-!
# YAML scalars

A string is written plain where that is safe. It is quoted with single quotes when it would read as
something else, and with double quotes when it holds characters that need an escape. A string with a
line feed is a literal block unless it ends in a blank or needs escapes.
-/

namespace GlyphFold.Yaml

/-! ## Characters -/

/-- Line breaks, those that only end a line on paper included. -/
def isBreak (c : Char) : Bool :=
  c == '\n' || c == '\r' || c == '\u0085' || c == '\u2028' || c == '\u2029'

def isBlankOrBreak (c : Char) : Bool := c == ' ' || c == '\t' || c == '\x00' || isBreak c

/-- Characters that stand for themselves. -/
def isPrintable (c : Char) : Bool :=
  let n := c.toNat
  c == '\n' || 0x20 ≤ n && n ≤ 0x7E || 0xA0 ≤ n && n != 0xFEFF && n != 0xFFFE && n != 0xFFFF

/-- The characters that a plain scalar cannot begin with. -/
def isIndicator (c : Char) : Bool := "#,[]\x7b\x7d&*!|>'\"%@\x60".contains c

/-! ## Styles -/

/-- Whether the text behind a character begins with a blank or ends. -/
def blankFollows : List Char → Bool
  | [] => true
  | c :: _ => isBlankOrBreak c

/-- A colon in front of a blank, or a number sign behind one. -/
def hasInnerIndicator : (previous : Char) → List Char → Bool
  | _, [] => false
  | previous, c :: cs =>
    (c == ':' && blankFollows cs) || (c == '#' && isBlankOrBreak previous) ||
      hasInnerIndicator c cs

/-- A mark at the start or inside would be read as one of the language. -/
def hasIndicator (cs : List Char) : Bool :=
  cs.take 3 == ['-', '-', '-'] || cs.take 3 == ['.', '.', '.'] ||
  match cs with
  | [] => false
  | c :: rest =>
    isIndicator c || ((c == '?' || c == ':' || c == '-') && blankFollows rest) ||
      hasInnerIndicator c rest

/-- A character of the first kind directly in front of one of the second. -/
def hasPair (first second : Char → Bool) : List Char → Bool
  | [] => false
  | [_] => false
  | c :: d :: rest => (first c && second d) || hasPair first second (d :: rest)

def isSpace (c : Char) : Bool := c == ' '

/-- Only double quotes can hold the text. -/
def needsEscapes (cs : List Char) : Bool := !cs.all isPrintable || hasPair isSpace isBreak cs

def isPlain (cs : List Char) : Bool :=
  let edges := cs.head?.any isSpace || cs.getLast?.any isSpace
  !needsEscapes cs && !cs.any isBreak && !edges && !hasIndicator cs

inductive Style where
  | plain
  | singleQuoted
  | doubleQuoted
  | literal
  deriving DecidableEq, Repr

/-- The style of a string in a block. -/
def styleOf (s : String) : Style :=
  let cs := s.toList
  if cs.contains '\n' then
    if needsEscapes cs || cs.getLast?.any isSpace then .doubleQuoted else .literal
  else if isPlain cs && !isAmbiguous s then .plain
  else if needsEscapes cs || hasPair isBreak isSpace cs then .doubleQuoted
  else .singleQuoted

/-! ## Texts -/

def indentation (level : Nat) : List Char := List.replicate level ' '

def upperHex (width n : Nat) : List Char :=
  let digits := (Nat.toDigits 16 n).map Char.toUpper
  List.replicate (width - digits.length) '0' ++ digits

/-- The escape of a character that needs one. -/
def escapeText (c : Char) : List Char :=
  match c with
  | '\x00' => ['0']
  | '\x07' => ['a']
  | '\x08' => ['b']
  | '\t' => ['t']
  | '\n' => ['n']
  | '\x0b' => ['v']
  | '\x0c' => ['f']
  | '\r' => ['r']
  | '\x1b' => ['e']
  | '"' => ['"']
  | '\\' => ['\\']
  | '\u0085' => ['N']
  | '\u2028' => ['L']
  | '\u2029' => ['P']
  | c =>
    if c.toNat ≤ 0xFF then 'x' :: upperHex 2 c.toNat
    else if c.toNat ≤ 0xFFFF then 'u' :: upperHex 4 c.toNat
    else 'U' :: upperHex 8 c.toNat

def doubleQuotedChar (c : Char) : List Char :=
  if !isPrintable c || isBreak c || c == '"' || c == '\\' then '\\' :: escapeText c else [c]

def doubleQuoted (cs : List Char) : List Char := '"' :: cs.flatMap doubleQuotedChar ++ ['"']

/-- The lines of a text: a line behind a break is indented. -/
def brokenLines (level : Nat) (change : Char → List Char) : (behindBreak : Bool) → List Char → List Char
  | _, [] => []
  | behindBreak, c :: cs =>
    if isBreak c then c :: brokenLines level change true cs
    else (if behindBreak then indentation level else []) ++ change c ++
      brokenLines level change false cs

/-- A quote is written twice; the quote behind a break at the end is indented. -/
def singleQuoted (level : Nat) (cs : List Char) : List Char :=
  '\'' :: brokenLines level (fun c => if c == '\'' then ['\'', '\''] else [c]) false cs ++
    (if cs.getLast?.any isBreak then indentation level else []) ++ ['\'']

/-- What the header of a literal block says about the breaks at its end. -/
def chomping (cs : List Char) : List Char :=
  match cs.reverse with
  | [] => ['-']
  | [c] => if isBreak c then ['+'] else ['-']
  | c :: d :: _ => if !isBreak c then ['-'] else if isBreak d then ['+'] else []

/-- A block of lines, each indented; a block that begins with a blank says by how much. -/
def literal (level : Nat) (cs : List Char) : List Char :=
  let hint := if cs.head?.any fun c => isSpace c || isBreak c then ['2'] else []
  '|' :: hint ++ chomping cs ++ '\n' :: brokenLines level (fun c => [c]) true cs

/-- A string in a block, with the indentation of the lines that it may take. -/
def scalarChars (level : Nat) (s : String) : List Char :=
  match styleOf s with
  | .plain => s.toList
  | .singleQuoted => singleQuoted level s.toList
  | .doubleQuoted => doubleQuoted s.toList
  | .literal => literal level s.toList

/-- A name that may stand in front of its colon on one line. -/
def isSimpleKey (s : String) : Bool := !s.toList.any isBreak && Text.byteSize s.toList ≤ 128

end GlyphFold.Yaml
