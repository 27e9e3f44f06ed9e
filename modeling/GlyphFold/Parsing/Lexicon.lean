import GlyphFold.Parsing.Cursor

/-!
# Tokens

A lexicon says where the tokens of a language begin and end. Every token parser first passes the
blanks and comments in front of it; a comment is a leaf of its own. Words and operators are read
whole: the text `>==` has no token `>=`, the word `alphabet` no token `alpha`.
-/

namespace GlyphFold.Parsing

structure Lexicon where
  /-- How many of the characters ahead are blank, where line breaks are blank or are not. -/
  blankLength : (lineBound : Bool) → List Char → Nat
  /-- How many of the characters ahead are a comment. -/
  commentLength : List Char → Nat
  /-- How many of the characters ahead are a word. -/
  wordLength : List Char → Nat
  /-- How many of the characters ahead are a number. -/
  numberLength : List Char → Nat
  /-- The operators and brackets; one that begins with another stands before it. -/
  operators : List String

namespace Lexicon

/-- The blanks and comments ahead. -/
def blanks (l : Lexicon) : Parser := many do
  let here ← get
  match l.blankLength here.lineBound here.rest with
  | 0 => leafOf "comment" (l.commentLength here.rest)
  | count => skip count

/-- A token behind blanks, of the length that `length` finds. -/
def token (l : Lexicon) (kind : String) (length : List Char → Nat) : Parser :=
  inOrder [l.blanks, do leafOf kind (length (← ahead))]

/-- A token of the given characters, whatever operator they may begin. -/
def exactly (l : Lexicon) (s : String) : Parser :=
  l.token s fun cs => if s.toList.isPrefixOf cs then s.length else 0

/-- The word ahead. -/
def wordAhead (l : Lexicon) (cs : List Char) : String := String.ofList (cs.take (l.wordLength cs))

/-- The operator ahead. -/
def operatorAhead (l : Lexicon) (cs : List Char) : String :=
  (l.operators.find? (·.toList.isPrefixOf cs)).getD ""

/-- One of several operators; its kind is its text. -/
def symbols (l : Lexicon) (accepts : String → Bool) : Parser := do
  let comments ← l.blanks
  let op := l.operatorAhead (← ahead)
  check (accepts op)
  return comments ++ (← leafOf op op.length)

def symbol (l : Lexicon) (s : String) : Parser := l.symbols (· == s)

/-- One of several words; its kind is its text. -/
def keywords (l : Lexicon) (accepts : String → Bool) : Parser := do
  let comments ← l.blanks
  let word := l.wordAhead (← ahead)
  check (accepts word)
  return comments ++ (← leafOf word word.length)

def keyword (l : Lexicon) (s : String) : Parser := l.keywords (· == s)

/-- A word that is not reserved. -/
def name (l : Lexicon) (reserved : List String) (kind : String) : Parser :=
  l.token kind fun cs => if reserved.contains (l.wordAhead cs) then 0 else l.wordLength cs

def number (l : Lexicon) (kind : String) : Parser := l.token kind l.numberLength

/-- The word ahead, behind blanks; the cursor stays. -/
def nextWord (l : Lexicon) : Parse String := do
  let here ← get
  let _ ← l.blanks
  let word := l.wordAhead (← ahead)
  set here
  return word

/-- The characters ahead, behind blanks; the cursor stays. -/
def nextChars (l : Lexicon) : Parse (List Char) := do
  let here ← get
  let _ ← l.blanks
  let cs ← ahead
  set here
  return cs

/-- The operator ahead, behind blanks; the cursor stays. -/
def nextOperator (l : Lexicon) : Parse String := return l.operatorAhead (← l.nextChars)

/-- Items between two brackets, with commas between them and perhaps behind them. Lines do not end
inside. -/
def bracketed (l : Lexicon) (opening closing : String) (item : Parser) : Parser :=
  inOrder
    [l.symbol opening,
     withLines false (inOrder [optional (sepEndBy1 item (l.symbol ",")), l.symbol closing])]

/-- A token that fits no phrase. -/
def stray (l : Lexicon) : Parser := do
  let comments ← l.blanks
  let cs ← ahead
  let count := [l.wordLength cs, l.numberLength cs, (l.operatorAhead cs).length, 1].find? (0 < ·)
  return comments ++ Concrete.phrase "ERROR" (← leafOf "ERROR" (count.getD 1))

end Lexicon

end GlyphFold.Parsing
