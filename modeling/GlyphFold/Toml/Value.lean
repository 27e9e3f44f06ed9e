/-!
# TOML values

A TOML text is a table. What may still be added to a table depends on how it came about, so each table
keeps its `Form`: one that was written as a whole is closed, one that a dotted key brought about grows
by dotted keys, one that only a longer header named may still get a header of its own.

1. `Value`, `Entries`
2. `insertPair`: the effect of a key and its value
3. `openTable`, `openItem`, `within`: the effect of headers
-/

namespace GlyphFold.Toml

inductive Form where
  /-- Named by a header. -/
  | header
  /-- Named by headers of tables in it only. -/
  | implied
  /-- Named by dotted keys. -/
  | dotted
  /-- Written as a value. -/
  | inline
  deriving DecidableEq, Repr

inductive Value where
  | string (text : String)
  | integer (n : Int)
  /-- A float, as it is written. -/
  | float (text : String)
  | boolean (b : Bool)
  /-- A date, a time or both, as it is written. -/
  | dateTime (text : String)
  | list (items : List Value)
  | table (form : Form) (entries : List (String × Value))
  /-- The tables of a header in double brackets, last first. -/
  | tables (items : List (List (String × Value)))

abbrev Entries := List (String × Value)

namespace Entries

def setEntry (key : String) (v : Value) : Entries → Entries
  | [] => [(key, v)]
  | (k, old) :: rest => if k = key then (key, v) :: rest else (k, old) :: setEntry key v rest

/-! ## Keys -/

/-- Adds a value below a dotted key, given as its first parts and its last. The table that the last
part is added to must be one of dotted keys, or the table at hand if there is one part only. -/
def insertPair (path : List String) (key : String) (v : Value) (isOpen : Bool) (t : Entries) :
    Option Entries :=
  match path with
  | [] => if isOpen && (t.lookup key).isNone then some (t.setEntry key v) else none
  | k :: ks => do
    let inner ← match t.lookup k with
      | none => (insertPair ks key v true []).map (.table .dotted)
      | some (.table .dotted entries) => (insertPair ks key v true entries).map (.table .dotted)
      | some (.table .implied entries) => (insertPair ks key v false entries).map (.table .implied)
      | some (.tables (last :: before)) =>
        (insertPair ks key v false last).map fun last => .tables (last :: before)
      | _ => none
    return t.setEntry k inner

/-- The table of some keys and their values, or nothing if a key stands twice. -/
def ofPairs (pairs : List ((List String × String) × Value)) : Option Entries :=
  pairs.foldlM (fun t ((path, key), v) => t.insertPair path key v true) []

/-! ## Headers -/

/-- Changes the table that a path leads to, with tables on the way for the parts that name none. -/
def within (path : List String) (change : Entries → Option Entries) (t : Entries) :
    Option Entries :=
  match path with
  | [] => change t
  | k :: ks => do
    let inner ← match t.lookup k with
      | none => (within ks change []).map (.table .implied)
      | some (.table .inline _) => none
      | some (.table form entries) => (within ks change entries).map (.table form)
      | some (.tables (last :: before)) =>
        (within ks change last).map fun last => .tables (last :: before)
      | _ => none
    return t.setEntry k inner

/-- The effect of `[key]`. -/
def openTable (key : String) (t : Entries) : Option Entries :=
  match t.lookup key with
  | none => some (t.setEntry key (.table .header []))
  | some (.table .implied entries) => some (t.setEntry key (.table .header entries))
  | some _ => none

/-- The effect of `[[key]]`. -/
def openItem (key : String) (t : Entries) : Option Entries :=
  match t.lookup key with
  | none => some (t.setEntry key (.tables [[]]))
  | some (.tables items) => some (t.setEntry key (.tables ([] :: items)))
  | some _ => none

end Entries

end GlyphFold.Toml
