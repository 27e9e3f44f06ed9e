import GlyphFold.Parsing.Concrete

/-!
# Parsing a source by hand

A parser reads characters from a cursor and gives the trees of what it read, or fails and leaves the
cursor where it was. Grammars are given rule by rule: `rules` ties a step function, which parses one
rule with a parser for every rule at hand, into a parser for each depth of nesting.

1. `Cursor`, `Parse`, `Parser`: positions and parsers
2. `leafOf`, `phraseOf`, `optional`, `many`, `sepBy`: the combinators
3. `rules`: recursion by depth
-/

namespace GlyphFold.Parsing

/-- A place in a source: the bytes before it, the characters after it, whether the phrase at hand
ends with its line, and the bytes of the whole source. -/
structure Cursor where
  offset : Nat
  rest : List Char
  lineBound : Bool
  size : Nat

def Cursor.ofSource (source : String) : Cursor := ⟨0, source.toList, true, source.utf8ByteSize⟩

/-- One more than the bytes that are left, which bounds every repetition. -/
def Cursor.room (c : Cursor) : Nat := c.size - c.offset + 1

/-- The cursor behind the next characters. -/
def Cursor.advance (c : Cursor) (count : Nat) : Cursor :=
  { c with
    offset := c.offset + Text.byteSize (c.rest.take count)
    rest := c.rest.drop count }

abbrev Parse (α : Type) := StateT Cursor Option α

abbrev Parser := Parse (List Concrete)

/-! ## Combinators -/

def nothing : Parser := pure []

/-- The characters ahead. -/
def ahead : Parse (List Char) := do return (← get).rest

/-- Fails unless the condition holds. -/
def check (condition : Bool) : Parse Unit := if condition then pure () else failure

/-- A token of the next characters. -/
def leafOf (kind : String) (count : Nat) : Parser := do
  let here ← get
  check (0 < count && count ≤ here.rest.length)
  let there := here.advance count
  set there
  return [.leaf kind ⟨here.offset, there.offset⟩]

/-- Passes the next characters without a trace. -/
def skip (count : Nat) : Parser := do
  check (0 < count)
  modify fun c => c.advance count
  return []

/-- One parser after another. -/
def inOrder (ps : List Parser) : Parser :=
  ps.foldr (fun p rest => do return (← p) ++ (← rest)) nothing

/-- The first of several parsers that succeeds. -/
def firstOf (ps : List Parser) : Parser := ps.foldr (· <|> ·) failure

/-- A phrase of the given kind. -/
def phraseOf (kind : String) (ps : List Parser) : Parser := do
  return Concrete.phrase kind (← inOrder ps)

def optional (p : Parser) : Parser := p <|> nothing

/-- Repeats a parser as long as it moves on, at most `bound` times. -/
def manyUpTo (bound : Nat) (p : Parser) : Parser :=
  match bound with
  | 0 => nothing
  | bound + 1 => (do
      let before ← get
      let trees ← p
      let after ← get
      check (before.offset < after.offset)
      return trees ++ (← manyUpTo bound p)) <|> nothing

/-- Repeats a parser as long as it moves on. -/
def many (p : Parser) : Parser := do manyUpTo (← get).room p

/-- One or more, with separators between them. -/
def sepBy1 (p separator : Parser) : Parser :=
  inOrder [p, many (inOrder [separator, p])]

/-- One or more with separators between them and perhaps behind them. -/
def sepEndBy1 (p separator : Parser) : Parser := inOrder [sepBy1 p separator, optional separator]

/-- Succeeds where a parser does and stays in front of what it reads. -/
def succeeding (p : Parser) : Parser := do
  let here ← get
  let _ ← p
  set here
  return []

/-- Parses with line breaks taken as blanks, or not. -/
def withLines (bound : Bool) (p : Parser) : Parser := do
  let outer := (← get).lineBound
  modify fun c => { c with lineBound := bound }
  let trees ← p
  modify fun c => { c with lineBound := outer }
  return trees

/-- Grows a phrase to the right: each extension takes the trees so far, as long as one applies. -/
def extendUpTo (bound : Nat) (step : List Concrete → Parser) (trees : List Concrete) : Parser :=
  match bound with
  | 0 => pure trees
  | bound + 1 => (do extendUpTo bound step (← step trees)) <|> pure trees

def extend (step : List Concrete → Parser) (trees : List Concrete) : Parser := do
  extendUpTo (← get).room step trees

/-! ## Rules -/

/-- Parsers for the rules of a grammar, down to a depth of nesting. -/
def rules {Rule : Type} (step : (Rule → Parser) → Rule → Parser) : (depth : Nat) → Rule → Parser
  | 0, _ => failure
  | depth + 1, rule => step (rules step depth) rule

/-- The top phrases of a source. Nesting is bounded by the length of the source. -/
def parseWith {Rule : Type} (step : (Rule → Parser) → Rule → Parser) (top : Rule)
    (source : String) : List Concrete :=
  let start := Cursor.ofSource source
  match rules step (4 * start.room) top start with
  | some (trees, _) => trees
  | none => []

end GlyphFold.Parsing
