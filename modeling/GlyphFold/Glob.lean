import GlyphFold.Glob.Pattern

/-!
# Globs

`*` and `?` stand for bytes, `[…]` for a class of them, `\x7b…,…\x7d` for a choice, a backslash takes
the meaning from the next character. `**` as a whole component of a path stands for any number of
components. A glob is read from left to right; at each character a step says what it means and how
many of the characters behind it belong to it.

1. `Fault`: why a text is no glob
2. `Token`, `Token.pattern`: the parts of a glob and what they match
3. `readClass`, `readStars`, `Reader.step`: reading
4. `Glob.ofText`: the pattern of a glob
-/

namespace GlyphFold.Glob

/-! ## Faults -/

inductive Fault where
  | unclosedClass
  | reversedRange (low high : Char)
  | unopenedGroup
  | unclosedGroup
  | danglingEscape
  deriving DecidableEq, Repr

def Fault.message : Fault → String
  | unclosedClass => "unclosed character class; missing ']'"
  | reversedRange low high =>
    "invalid range; '" ++ low.toString ++ "' > '" ++ high.toString ++ "'"
  | unopenedGroup =>
    "unopened alternate group; missing '\x7b' (maybe escape '\x7d' with '[\x7d]'?)"
  | unclosedGroup =>
    "unclosed alternate group; missing '\x7d' (maybe escape '\x7b' with '[\x7b]'?)"
  | danglingEscape => "dangling '\\'"

/-! ## Tokens -/

/-- The two ways in which globs are read. -/
structure Dialect where
  /-- Wildcards and classes match the slash too. -/
  crossesSlash : Bool
  /-- A bracket that is not closed stands for itself. -/
  looseBracket : Bool
  deriving DecidableEq, Repr

/-- Globs over whole paths. -/
def Dialect.path : Dialect := ⟨true, false⟩

/-- The lines of ignore files. -/
def Dialect.ignoreLine : Dialect := ⟨false, true⟩

inductive Token where
  | char (c : Char)
  | anyByte
  | anyBytes
  /-- `**` and the slash behind it, at the start. -/
  | leading
  /-- `**` and the slash before it, at the end. -/
  | trailing
  /-- `**` and the slashes around it. -/
  | between
  | oneOf (negated : Bool) (ranges : List (Char × Char))
  | group (choice : Pattern)

def slash : UInt8 := '/'.toUInt8

/-- The ranges of bytes that a range of characters covers: it reaches from the last byte of one to
the first byte of the other. -/
def byteRanges : Char × Char → List (UInt8 × UInt8)
  | (low, high) =>
    let single (b : UInt8) := (b, b)
    if low = high then (Text.utf8 [low]).map single
    else match (Text.utf8 [low]).reverse, Text.utf8 [high] with
      | l :: ls, h :: hs => ls.map single ++ (l, h) :: hs.map single
      | _, _ => []

/-- The bytes of a class. -/
def inClass (ranges : List (Char × Char)) (b : UInt8) : Bool :=
  (ranges.flatMap byteRanges).any fun (low, high) => low ≤ b && b ≤ high

def anything : Pattern := .run fun _ => true

def exactly (c : Char) : Pattern := .sequence ((Text.utf8 [c]).map fun b => .byte (· == b))

namespace Token

/-- The bytes that a wildcard may stand for. -/
def wild (d : Dialect) (b : UInt8) : Bool := d.crossesSlash || b != slash

def pattern (d : Dialect) : Token → Pattern
  | char c => exactly c
  | anyByte => .byte (wild d)
  | anyBytes => .run (wild d)
  | leading => .either (.either .empty (exactly '/')) (.append anything (exactly '/'))
  | trailing => .append (exactly '/') anything
  | between => .either (exactly '/') (.sequence [exactly '/', anything, exactly '/'])
  | oneOf negated ranges => .byte fun b => wild d b && (inClass ranges b != negated)
  | group choice => choice

end Token

/-- What a list of tokens matches. -/
def patternOf (d : Dialect) (tokens : List Token) : Pattern := .sequence (tokens.map (·.pattern d))

/-- The pattern is a sequence of nothing. -/
def Pattern.isBlank : Pattern → Bool
  | .empty => true
  | .append p q => p.isBlank && q.isBlank
  | .byte _ | .run _ | .either _ _ => false

/-! ## Classes -/

/-- A class as it is read: its ranges, last first, and whether a dash may be followed by the end of a
range. -/
structure ClassReader where
  ranges : List (Char × Char) := []
  inRange : Bool := false

def ClassReader.single (r : ClassReader) (c : Char) : ClassReader :=
  { ranges := (c, c) :: r.ranges }

/-- Ends a range at a character. -/
def ClassReader.close (r : ClassReader) (high : Char) : Except Fault ClassReader :=
  match r.ranges with
  | (low, _) :: rest =>
    if high < low then .error (.reversedRange low high) else .ok { ranges := (low, high) :: rest }
  | [] => .ok r

/-- The ranges of a class and the number of characters up to its closing bracket, which is the first
one that is not the first character; nothing if there is none. -/
def readRanges (first : Bool) (r : ClassReader) :
    List Char → Except Fault (Option (List (Char × Char) × Nat))
  | [] => .ok none
  | c :: cs => do
    if c = ']' && !first then
      let all := if r.inRange then r.single '-' else r
      return some (all.ranges.reverse, 1)
    let r ← if c = '-' && !first && !r.inRange then .ok { r with inRange := true }
      else if r.inRange then r.close c
      else .ok (r.single c)
    return (← readRanges false r cs).map fun (ranges, count) => (ranges, count + 1)

/-- The class behind a bracket and the number of its characters. -/
def readClass (cs : List Char) : Except Fault (Option (Token × Nat)) := do
  let negated := cs.head? = some '!' || cs.head? = some '^'
  let found ← readRanges true {} (if negated then cs.drop 1 else cs)
  return found.map fun (ranges, count) =>
    (.oneOf negated ranges, if negated then count + 1 else count)

/-! ## Reading -/

/-- A glob as it is read. -/
structure Reader where
  /-- The tokens of the branch at hand, last first. -/
  tokens : List Token := []
  /-- The open groups, innermost first: the branches that are read, last first, and the tokens in
  front of the group. -/
  opened : List (List (List Token) × List Token) := []
  /-- The character before this one. -/
  before : Option Char := none
  /-- Brackets stand for themselves. -/
  looseBrackets : Bool := false

namespace Reader

def push (r : Reader) (tokens : List Token) : Reader :=
  { r with tokens := tokens.reverse ++ r.tokens }

/-- What `**` stands for behind the given character and in front of the given ones, and how many of
them it takes: a whole component takes the slash behind it, and the slash before it is no token of
its own. -/
def readStars (r : Reader) (cs : List Char) : Reader × Nat :=
  let plain := r.push [.anyBytes, .anyBytes]
  let grouped := !r.opened.isEmpty
  match r.tokens with
  | [] =>
    match cs with
    | [] => (r.push [.leading], 0)
    | c :: _ => if c = '/' then (r.push [.leading], 1) else (plain, 0)
  | last :: rest =>
    let behindBreak := r.before = some '/' ||
      (grouped && (r.before = some ',' || r.before = some '\x7b'))
    let take (token : Token) : Reader :=
      { r with
        tokens := (match last with
          | .leading => .leading
          | .trailing => .trailing
          | _ => token) :: rest }
    if behindBreak then
      match cs with
      | [] => (take .trailing, 0)
      | c :: _ =>
        if grouped && (c = ',' || c = '\x7d') then (take .trailing, 0)
        else if c = '/' then (take .between, 1)
        else (plain, 0)
    else (plain, 0)

/-- Ends the innermost group. Branches that ask for nothing are no choices. -/
def closeGroup (d : Dialect) (r : Reader) : Except Fault Reader :=
  match r.opened with
  | [] => .error .unopenedGroup
  | (branches, outside) :: rest =>
    let choices := (r.tokens :: branches).reverse.map fun tokens => patternOf d tokens.reverse
    .ok { r with
      tokens := .group (.oneOf (choices.filter (!·.isBlank))) :: outside
      opened := rest }

/-- Reads a character, given those behind it; says how many of them it took. -/
def step (d : Dialect) (r : Reader) (c : Char) (cs : List Char) : Except Fault (Reader × Nat) :=
  match c with
  | '?' => .ok (r.push [.anyByte], 0)
  | '*' =>
    match cs with
    | '*' :: cs => let (r, count) := r.readStars cs; .ok (r, count + 1)
    | _ => .ok (r.push [.anyBytes], 0)
  | '[' =>
    if r.looseBrackets then .ok (r.push [.char '['], 0)
    else do
      match ← readClass cs with
      | some (token, count) => return (r.push [token], count)
      | none =>
        if d.looseBracket then return ({ r.push [.char '['] with looseBrackets := true }, 0)
        else .error .unclosedClass
  | '\x7b' => .ok ({ r with tokens := [], opened := ([], r.tokens) :: r.opened }, 0)
  | '\x7d' => do return (← r.closeGroup d, 0)
  | ',' =>
    match r.opened with
    | [] => .ok (r.push [.char ','], 0)
    | (branches, outside) :: rest =>
      .ok ({ r with tokens := [], opened := (r.tokens :: branches, outside) :: rest }, 0)
  | '\\' =>
    match cs with
    | [] => .error .danglingEscape
    | c :: _ => .ok (r.push [.char c], 1)
  | c => .ok (r.push [.char c], 0)

/-- Reads characters, the first `taken` of which belong to a token already read. -/
def readFrom (d : Dialect) (r : Reader) (taken : Nat) : List Char → Except Fault Reader
  | [] => .ok r
  | c :: cs =>
    match taken with
    | taken + 1 => readFrom d { r with before := some c } taken cs
    | 0 => do
      let (r, taken) ← r.step d c cs
      readFrom d { r with before := some c } taken cs

end Reader

/-- The pattern of a glob. `**` alone matches everything. -/
def ofText (d : Dialect) (text : String) : Except Fault Pattern := do
  let r ← Reader.readFrom d {} 0 text.toList
  if !r.opened.isEmpty then .error .unclosedGroup
  match r.tokens with
  | [.leading] => return anything
  | tokens => return patternOf d tokens.reverse

end GlyphFold.Glob
