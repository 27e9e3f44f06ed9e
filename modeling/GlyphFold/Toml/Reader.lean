import GlyphFold.Toml.Scalars

/-!
# Reading TOML texts

1. `value`: values, to a depth of nesting
2. `section`: a header with the keys and values behind it
3. `ofText?`: the table of a text
-/

namespace GlyphFold.Toml

namespace Reader

/-! ## Values -/

def boolean : Reader Value :=
  (do exactly "true"; return .boolean true) <|> (do exactly "false"; return .boolean false)

def scalar : Reader Value :=
  (do return .string (← string)) <|> boolean <|> dateTime <|> float <|> integer

/-- A list of values; a comma may stand behind the last. -/
def listOf (value : Reader Value) : Reader Value := do
  exactly "["
  let items ← maybe (sepBy1 (do gap; let v ← value; gap; return v) (exactly ","))
  if items.isSome then
    let _ ← maybe (exactly ",")
  gap
  exactly "]"
  return .list (items.getD [])

/-- A key and its value. -/
def pairOf (value : Reader Value) : Reader ((List String × String) × Value) := do
  let k ← key
  exactly "="
  blanks
  return (k, ← value)

/-- A table in braces, on one line. -/
def tableOf (value : Reader Value) : Reader Value := do
  exactly "\x7b"
  let pairs ← maybe (sepBy1 (do let p ← pairOf value; blanks; return p) (exactly ","))
  blanks
  exactly "\x7d"
  match Entries.ofPairs (pairs.getD []) with
  | some entries => return .table .inline entries
  | none => failure

/-- A value with lists and tables up to a depth of nesting. -/
def value : (depth : Nat) → Reader Value
  | 0 => scalar
  | depth + 1 => scalar <|> listOf (value depth) <|> tableOf (value depth)

/-! ## Sections -/

/-- A line that says nothing. -/
def idleLine : Reader Unit := do
  blanks
  let _ ← maybe comment
  newline

/-- A key and its value on a line of their own. -/
def pairLine : Reader ((List String × String) × Value) := do
  let _ ← many idleLine
  blanks
  let p ← pairOf (value (nestingLimit - 1))
  restOfLine
  return p

/-- Between a text and what follows it stand two others. -/
def between {α : Type} (opening closing : String) (r : Reader α) : Reader α := do
  exactly opening
  let x ← r
  exactly closing
  return x

/-- A header: whether it opens an item of a list of tables, and its key. -/
def headerLine : Reader (Bool × List String × String) := do
  let _ ← many idleLine
  blanks
  let h ← (do return (true, ← between "[[" "]]" key)) <|> (do return (false, ← between "[" "]" key))
  restOfLine
  return h

/-- The effect of the keys and values below a header, if there is one. -/
def fill (pairs : List ((List String × String) × Value)) (t : Entries) : Option Entries :=
  pairs.foldlM (fun t ((path, k), v) => t.insertPair path k v true) t

/-- The effect of a header and of what stands below it. -/
def enter (isItem : Bool) (path : List String) (key : String)
    (pairs : List ((List String × String) × Value)) (t : Entries) : Option Entries := do
  let opened ← t.within path (if isItem then Entries.openItem key else Entries.openTable key)
  opened.within (path ++ [key]) (fill pairs)

/-- A header and what stands below it. -/
def «section» (t : Entries) : Reader Entries := do
  let (isItem, path, key) ← headerLine
  let pairs ← many pairLine
  match enter isItem path key pairs t with
  | some t => return t
  | none => failure

def sectionsUpTo (bound : Nat) (t : Entries) : Reader Entries :=
  match bound with
  | 0 => pure t
  | bound + 1 => (do sectionsUpTo bound (← «section» t)) <|> pure t

/-- A whole text. -/
def document : Reader Entries := do
  let _ ← maybe (exactly "\ufeff")
  match fill (← many pairLine) [] with
  | some t =>
    let t ← sectionsUpTo ((← get).length) t
    let _ ← many idleLine
    restOfLine
    atEnd
    return t
  | none => failure

end Reader

/-- The table of a text, if the text is TOML. -/
def ofText? (text : String) : Option Entries := (Reader.document.run text.toList).map Prod.fst

end GlyphFold.Toml
