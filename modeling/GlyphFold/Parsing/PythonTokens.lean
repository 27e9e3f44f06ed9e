import GlyphFold.Parsing.Lexicon
import GlyphFold.Parsing.Numeral
import GlyphFold.Text.IdentifierRanges

/-!
# Tokens of Python

Blanks, comments, words, numbers and operators, and how far the text of a string literal reaches.
-/

namespace GlyphFold.Parsing.Python

/-- Blanks other than line feeds. -/
def isSpace (c : Char) : Bool :=
  c == ' ' || c == '\t' || c == '\r' || c == '\x0b' || c == '\x0c' || c == '\uFEFF' ||
    c == '\u2060' || c == '\u200B'

/-- The blanks ahead. A backslash at the end of a line joins it to the next. -/
def blankLength (lineBound : Bool) : List Char → Nat
  | '\\' :: '\n' :: rest => 2 + blankLength lineBound rest
  | '\\' :: '\r' :: '\n' :: rest => 3 + blankLength lineBound rest
  | c :: rest =>
    if isSpace c || (!lineBound && c == '\n') then 1 + blankLength lineBound rest else 0
  | [] => 0

def commentLength : List Char → Nat
  | '#' :: rest => 1 + (rest.takeWhile (· != '\n')).length
  | _ => 0

def startsWord (c : Char) : Bool := c == '_' || Text.covers Text.identifierStartRanges c.toNat

def continuesWord (c : Char) : Bool := Text.covers Text.identifierContinueRanges c.toNat

def wordLength : List Char → Nat
  | [] => 0
  | c :: rest => if startsWord c then 1 + (rest.takeWhile continuesWord).length else 0

def keywords : List String :=
  ["False", "None", "True", "and", "as", "assert", "async", "await", "break", "class", "continue",
   "def", "del", "elif", "else", "except", "finally", "for", "from", "global", "if", "import",
   "in", "is", "lambda", "nonlocal", "not", "or", "pass", "raise", "return", "try", "while",
   "with", "yield"]

/-- The number ahead; a keyword may follow without a blank. -/
def numberLength (cs : List Char) : Nat :=
  match numeralLength ['j', 'J', 'l', 'L'] cs with
  | 0 => 0
  | length =>
    let word := (cs.drop length).take (wordLength (cs.drop length))
    if keywords.contains (String.ofList word) then length else length + word.length

def operators : List String :=
  ["**=", "//=", ">>=", "<<=", "...", "->", ":=", "+=", "-=", "*=", "/=", "%=", "@=", "&=", "|=",
   "^=", "==", "!=", "<=", ">=", "<>", "<<", ">>", "**", "//", "+", "-", "*", "/", "%", "@", "&",
   "|", "^", "~", "<", ">", "=", "(", ")", "[", "]", "\x7b", "\x7d", ",", ":", ";", "."]

def lexicon : Lexicon where
  blankLength := blankLength
  commentLength := commentLength
  wordLength := wordLength
  numberLength := numberLength
  operators := operators

/-! ## String literals -/

/-- How a string literal is quoted. -/
structure Quoting where
  mark : Char
  /-- Three marks at each end; the text may then hold line breaks. -/
  triple : Bool
  /-- A backslash stands for itself. -/
  raw : Bool
  /-- Braces hold expressions. -/
  formatted : Bool

namespace Quoting

/-- The characters of the quotation mark at the end. -/
def closing (q : Quoting) : List Char := List.replicate (if q.triple then 3 else 1) q.mark

/-- The quoting that the characters ahead begin, and how many of them do. -/
def opened? (cs : List Char) : Option (Quoting × Nat) :=
  let letters := cs.takeWhile fun c => "fFrRbBuU".contains c
  match cs.drop letters.length with
  | mark :: rest =>
    if mark == '\'' || mark == '"' then
      let triple := rest.take 2 == [mark, mark]
      some (⟨mark, triple, letters.any fun c => c == 'r' || c == 'R',
          letters.any fun c => c == 'f' || c == 'F'⟩,
        letters.length + if triple then 3 else 1)
    else none
  | [] => none

/-- How many of the characters behind a backslash belong to it. -/
def escapedLength (q : Quoting) : List Char → Nat
  | 'N' :: '\x7b' :: rest =>
    if q.raw then 0 else 2 + (rest.takeWhile (· != '\x7d')).length + 1
  | '\r' :: '\n' :: _ => 2
  | c :: _ => if c == '\'' || c == '"' || c == '\\' || c == '\n' then 1 else 0
  | [] => 0

/-- How far the text of the literal reaches: to its end, to a brace that opens an expression, or to
the end of a line that it may not pass. -/
def textLength (q : Quoting) : List Char → Nat
  | [] => 0
  | c :: rest =>
    let escaped := q.escapedLength rest
    if q.closing.isPrefixOf (c :: rest) then 0
    else if c == '\n' && !q.triple then 0
    else if c == '\\' then 1 + escaped + textLength q (rest.drop escaped)
    else if q.formatted && (c == '\x7b' || c == '\x7d') then
      match rest with
      | d :: rest' => if c == d then 2 + textLength q rest' else 0
      | [] => 0
    else 1 + textLength q rest
  termination_by cs => cs.length

end Quoting

end GlyphFold.Parsing.Python
