import GlyphFold.Parsing.Lexicon
import GlyphFold.Parsing.Numeral
import GlyphFold.Text.CodePoints

/-!
# Tokens of JavaScript and TypeScript

Blanks, comments, words, numbers and operators, and how far string text, template text, regular
expressions and markup text reach.
-/

namespace GlyphFold.Parsing.Script

/-- Blanks other than line ends. -/
def spaceRanges : List (Nat × Nat) :=
  [(0x9, 0x9), (0xB, 0xD), (0x20, 0x20), (0xA0, 0xA0), (0x1680, 0x1680), (0x2000, 0x200B),
   (0x202F, 0x202F), (0x205F, 0x2060), (0x3000, 0x3000), (0xFEFF, 0xFEFF)]

def endsLine (c : Char) : Bool := c == '\n' || c == '\u2028' || c == '\u2029'

def isSpace (c : Char) : Bool := Text.covers spaceRanges c.toNat

def blankLength (lineBound : Bool) (cs : List Char) : Nat :=
  (cs.takeWhile fun c => isSpace c || (!lineBound && endsLine c)).length

/-- The characters up to and with a text; all of them when it is not there. -/
def lengthThrough (stop : List Char) : List Char → Nat
  | [] => 0
  | c :: cs => if stop.isPrefixOf (c :: cs) then stop.length else 1 + lengthThrough stop cs

def commentLength : List Char → Nat
  | '/' :: '/' :: rest => 2 + (rest.takeWhile (!endsLine ·)).length
  | '/' :: '*' :: rest => 2 + lengthThrough ['*', '/'] rest
  | _ => 0

/-- Characters of words: whatever is neither blank, control nor ASCII punctuation. -/
def continuesWord (c : Char) : Bool :=
  c.toNat ≥ 0x20 && !isSpace c && !endsLine c &&
    !":;\x60\"'@#.,|^&<=>+-*/\\%?!~()[]\x7b\x7d".contains c

def startsWord (c : Char) : Bool := continuesWord c && !c.isDigit

/-- The escape of a character inside a word. -/
def wordEscapeLength : List Char → Nat
  | '\\' :: 'u' :: '\x7b' :: rest => 3 + lengthThrough ['\x7d'] rest
  | '\\' :: 'u' :: _ => 6
  | _ => 0

def wordTailLength : List Char → Nat
  | [] => 0
  | c :: rest =>
    match wordEscapeLength (c :: rest) with
    | 0 => if continuesWord c then 1 + wordTailLength rest else 0
    | n + 1 => 1 + n + wordTailLength (rest.drop n)
  termination_by cs => cs.length

def wordLength (cs : List Char) : Nat :=
  if cs.head?.any startsWord || 0 < wordEscapeLength cs then wordTailLength cs else 0

def numberLength (cs : List Char) : Nat :=
  match numeralLength ['n'] cs with
  | 0 => 0
  | length => length + (cs.drop length).length - ((cs.drop length).dropWhile continuesWord).length

def operators : List String :=
  [">>>=", "...", "===", "!==", "**=", "<<=", ">>=", ">>>", "&&=", "||=", "??=", "=>", "==", "!=",
   "<=", ">=", "&&", "||", "??", "?.", "++", "--", "+=", "-=", "*=", "/=", "%=", "&=", "|=", "^=",
   "<<", ">>", "**", "+", "-", "*", "/", "%", "&", "|", "^", "!", "~", "<", ">", "=", "?", ":",
   "(", ")", "[", "]", "\x7b", "\x7d", ",", ";", ".", "@"]

def lexicon : Lexicon where
  blankLength := blankLength
  commentLength := commentLength
  wordLength := wordLength
  numberLength := numberLength
  operators := operators

/-- Words that are no identifiers. -/
def reserved : List String :=
  ["break", "case", "catch", "class", "const", "continue", "debugger", "default", "delete", "do",
   "else", "export", "extends", "finally", "for", "function", "if", "import", "in", "instanceof",
   "new", "return", "super", "switch", "this", "throw", "try", "typeof", "var", "void", "while",
   "with", "null", "true", "false", "enum"]

/-! ## Literals -/

/-- The text of a string literal, up to its end or the end of the line. -/
def stringTextLength (mark : Char) : List Char → Nat
  | '\\' :: '\r' :: '\n' :: rest => 3 + stringTextLength mark rest
  | '\\' :: _ :: rest => 2 + stringTextLength mark rest
  | c :: rest => if c == mark || c == '\n' then 0 else 1 + stringTextLength mark rest
  | [] => 0

/-- The text of a template, up to its end or an expression. -/
def templateTextLength : List Char → Nat
  | '\\' :: _ :: rest => 2 + templateTextLength rest
  | '$' :: '\x7b' :: _ => 0
  | c :: rest => if c == '\x60' then 0 else 1 + templateTextLength rest
  | [] => 0

/-- The pattern of a regular expression, up to the slash at its end; a slash between square brackets
is part of it. None when the line ends before. -/
def regexTextLength? (inClass : Bool) : List Char → Option Nat
  | [] => none
  | '\\' :: c :: rest => if endsLine c then none else (regexTextLength? inClass rest).map (2 + ·)
  | c :: rest =>
    if endsLine c then none
    else if c == '/' && !inClass then some 0
    else (regexTextLength? (c == '[' || (inClass && c != ']')) rest).map (1 + ·)

/-- Some characters of a kind, but not too many, and a semicolon. -/
def closedLength (ofKind : Char → Bool) (most : Nat) (cs : List Char) : Nat :=
  let body := cs.takeWhile ofKind
  if 0 < body.length && body.length ≤ most && (cs.drop body.length).head? == some ';' then
    body.length + 1
  else 0

/-- A character of markup by its number or its name, from an ampersand to a semicolon. -/
def characterReferenceLength (cs : List Char) : Nat :=
  let (front, body) := match cs with
    | '&' :: '#' :: 'x' :: rest | '&' :: '#' :: 'X' :: rest =>
      (3, closedLength "0123456789abcdefABCDEF".toList.contains 6 rest)
    | '&' :: '#' :: rest => (2, closedLength Char.isDigit 5 rest)
    | '&' :: rest => (1, closedLength Char.isAlpha 30 rest)
    | _ => (0, 0)
  if body = 0 then 0 else front + body

/-- The text between the tags of markup. An ampersand that starts no reference is text. -/
def markupTextLength : List Char → Nat
  | [] => 0
  | c :: rest =>
    if ['\x7b', '\x7d', '<', '>'].contains c || 0 < characterReferenceLength (c :: rest) then 0
    else 1 + markupTextLength rest

example : markupTextLength "alpha & beta&lt;".toList = 12 := by decide +kernel

/-- A name in markup, which may hold dashes. -/
def markupNameLength (cs : List Char) : Nat :=
  if cs.head?.any startsWord then (cs.takeWhile fun c => continuesWord c || c == '-').length else 0

end GlyphFold.Parsing.Script
