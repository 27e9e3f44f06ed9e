import GlyphFold.Json.Numbers

/-!
# Reading JSON texts

A reader takes what it reads off the front of a text. The readers for lists and objects hand each item
and each member to another reader, so that a text can be checked against a type while it is read and
the first fault in reading order wins.

1. `peek`, `word`, `string`, `number`: single tokens
2. `listOf`, `foldMembers`: lists and objects
3. `value`: any value, to a depth of nesting
4. `skipValue`: any value, which nobody asks for, to any depth
-/

namespace GlyphFold.Json

abbrev Reader (α : Type) := StateT (List Char) (Except Fault) α

namespace Reader

/-! ## Tokens -/

def isBlank (c : Char) : Bool := c == ' ' || c == '\n' || c == '\t' || c == '\r'

/-- A reader of the characters ahead. -/
def ofScan {α : Type} (scan : List Char → Scanned α) : Reader α := scan

def ofSkip (skip : List Char → Except Fault (List Char)) : Reader Unit :=
  fun cs => (skip cs).map fun rest => ((), rest)

/-- The next character that is not blank, which stays ahead. -/
def peek : Reader (Option Char) := do
  modify (·.dropWhile isBlank)
  return (← get).head?

/-- Passes one character. -/
def pass : Reader Unit := modify (·.drop 1)

/-- Passes the characters of a word. -/
def passWord : List Char → Reader Unit
  | [] => pure ()
  | c :: cs => do
    match (← get).head? with
    | none => throw .valueUnfinished
    | some d => if c = d then do pass; passWord cs else throw .brokenWord

def word (s : String) : Reader Unit := passWord s.toList

/-- A string behind its opening quote. -/
def stringBody : Reader String := do return String.ofList (← ofScan decodeChars)

/-- A number, its sign included. -/
def number : Reader Number := do
  if (← peek) = some '-' then do
    pass
    ofScan (unsignedNumber false)
  else ofScan (unsignedNumber true)

/-- Names what stands ahead; a scalar is read on the way. -/
def found : Reader Found := do
  match ← peek with
  | some 'n' => do word "null"; return .null
  | some 't' => do word "true"; return .boolean true
  | some 'f' => do word "false"; return .boolean false
  | some '"' => do pass; return .string (← stringBody)
  | some '[' => return .sequence
  | some '\x7b' => return .map
  | some c => if c == '-' || c.isDigit then return (← number).found else throw .noValue
  | none => throw .valueUnfinished

/-- Refuses the value ahead, where another type is expected. -/
def mismatch {α : Type} (expected : String) : Reader α := do throw (.invalidType (← found) expected)

def string : Reader String := do
  if (← peek) = some '"' then do pass; stringBody else mismatch "a string"

/-- A string, or `null` for none. -/
def string? : Reader (Option String) := do
  if (← peek) = some 'n' then do word "null"; return none else return some (← string)

def boolean : Reader Bool := do
  match ← peek with
  | some 't' => do word "true"; return true
  | some 'f' => do word "false"; return false
  | _ => mismatch "a boolean"

/-- An integer below a bound. -/
def natural (bound : Nat) (expected : String) : Reader Nat := do
  match ← found with
  | .integer n =>
    if 0 ≤ n ∧ n < bound then return n.toNat else throw (.invalidValue (.integer n) expected)
  | other => throw (.invalidType other expected)

/-! ## Lists and objects -/

/-- Whether another item of a list follows; its comma is passed. -/
def anotherItem (first : Bool) : Reader Bool := do
  match ← peek with
  | none => throw .listUnfinished
  | some ']' => return false
  | some c =>
    if first then return true
    else if c = ',' then do
      pass
      match ← peek with
      | none => throw .valueUnfinished
      | some ']' => throw .trailingComma
      | some _ => return true
    else throw .noListEnd

/-- The end of a list all of whose items were asked for. -/
def closeList : Reader Unit := do
  match ← peek with
  | none => throw .listUnfinished
  | some ']' => pass
  | some c => do
    pass
    let next ← peek
    throw (if c = ',' ∧ next = some ']' then .trailingComma else .trailingCharacters)

/-- The items of a list, at most as many as the bound. -/
def itemsUpTo {α : Type} (item : Reader α) : (bound : Nat) → (first : Bool) → Reader (List α)
  | 0, _ => throw .listUnfinished
  | bound + 1, first => do
    if ← anotherItem first then
      let x ← item
      return x :: (← itemsUpTo item bound false)
    else return []

/-- A list whose opening bracket is ahead; every item takes a character at least. -/
def listOf {α : Type} (item : Reader α) : Reader (List α) := do
  pass
  let items ← itemsUpTo item ((← get).length + 1) true
  closeList
  return items

/-- Whether another member of an object follows; its comma is passed. -/
def anotherMember (first : Bool) : Reader Bool := do
  match ← peek with
  | none => throw .objectUnfinished
  | some '\x7d' => return false
  | some c =>
    if first then if c = '"' then return true else throw .keyNotString
    else if c = ',' then do
      pass
      match ← peek with
      | none => throw .valueUnfinished
      | some '\x7d' => throw .trailingComma
      | some '"' => return true
      | some _ => throw .keyNotString
    else throw .noObjectEnd

def colon : Reader Unit := do
  match ← peek with
  | none => throw .objectUnfinished
  | some ':' => pass
  | some _ => throw .noColon

/-- Hands the members of an object to a reader one after the other, each behind its name. -/
def foldMembersUpTo {σ : Type} (member : σ → String → Reader σ) :
    (bound : Nat) → (first : Bool) → σ → Reader σ
  | 0, _, _ => throw .objectUnfinished
  | bound + 1, first, state => do
    if ← anotherMember first then
      pass
      let name ← stringBody
      let state ← member state name
      foldMembersUpTo member bound false state
    else return state

/-- An object whose opening brace is ahead. -/
def foldMembers {σ : Type} (member : σ → String → Reader σ) (start : σ) : Reader σ := do
  pass
  let state ← foldMembersUpTo member ((← get).length + 1) true start
  pass
  return state

/-! ## Fields -/

/-- The value of a field that must not have been read before. -/
def once {α : Type} (name : String) (old : Option α) (read : Reader α) : Reader (Option α) :=
  if old.isSome then throw (.duplicateField name)
  else do
    colon
    return some (← read)

/-- The value of a field in a list of fields; none at the end of the list. -/
def listField {α : Type} (first : Bool) (read : Reader α) : Reader (Option α) := do
  if ← anotherItem first then return some (← read) else return none

/-! ## Any value -/

/-- A value whose lists and objects are read by the given readers. -/
def valueWith (list object : Reader Value) : Reader Value := do
  match ← peek with
  | some '[' => list
  | some '\x7b' => object
  | _ =>
    match ← found with
    | .boolean b => return .boolean b
    | .integer n => return .integer n
    | .float x => return .float x
    | .string s => return .string s
    | _ => return .null

/-- A value with lists and objects up to a depth of nesting. -/
def value : (depth : Nat) → Reader Value
  | 0 => valueWith (throw .tooDeep) (throw .tooDeep)
  | depth + 1 => valueWith
    (do return .list (← listOf (value depth)))
    (do return .object (← foldMembers (fun members name => do
      colon
      return members ++ [(name, ← value depth)]) []))

/-! ## Values that nobody asks for -/

mutual

def skipWithin : (bound : Nat) → Reader Unit
  | 0 => throw .valueUnfinished
  | bound + 1 => do
    match ← peek with
    | some '[' => do pass; skipItems bound true
    | some '\x7b' => do pass; skipMembers bound true
    | some '"' => do pass; ofSkip skipString
    | some '-' => do pass; ofSkip skipNumber
    | some c => if c.isDigit then ofSkip skipNumber else do let _ ← found
    | none => throw .valueUnfinished

/-- The rest of a list. -/
def skipItems : (bound : Nat) → (first : Bool) → Reader Unit
  | 0, _ => throw .listUnfinished
  | bound + 1, first => do
    match ← peek with
    | none => throw .listUnfinished
    | some ']' => pass
    | some c =>
      if first then pure ()
      else if c = ',' then pass
      else throw .noListEnd
      skipWithin bound
      skipItems bound false

/-- The rest of an object. -/
def skipMembers : (bound : Nat) → (first : Bool) → Reader Unit
  | 0, _ => throw .objectUnfinished
  | bound + 1, first => do
    match ← peek with
    | none => throw .objectUnfinished
    | some '\x7d' => pass
    | some c =>
      if first then pure ()
      else if c = ',' then pass
      else throw .noObjectEnd
      match ← peek with
      | none => throw .objectUnfinished
      | some '"' => pass
      | some _ => throw .keyNotString
      ofSkip skipString
      colon
      skipWithin bound
      skipMembers bound false

end

/-- Passes a value at any depth; every step inside it passes a character or the start of an item. -/
def skipValue : Reader Unit := do skipWithin (2 * (← get).length + 2)

/-! ## Whole texts -/

/-- Reads a whole text. -/
def read {α : Type} (r : Reader α) (text : String) : Except Fault α :=
  match r text.toList with
  | .error e => .error e
  | .ok (x, rest) => if rest.all isBlank then .ok x else .error .trailingCharacters

end Reader

end GlyphFold.Json
