import GlyphFold.Json.Reader
import GlyphFold.Region

/-!
# Regions as JSON

Offsets are integers below `2 ^ 64`. A region that is read may have its offsets reversed, may leave out
its group and its two marks, and may be a list of its fields.
-/

namespace GlyphFold

open Json

namespace Region

/-! ## Writing -/

/-- The members of a region; a group that is missing is left out. -/
def members (r : Region) : List (String × Value) :=
  [("start_offset", .natural r.start), ("end_offset", .natural r.stop),
   ("placeholder_text", .string r.placeholder)] ++
  (match r.group with
   | some group => [("group", .string group)]
   | none => []) ++
  [("collapsed_by_default", .boolean r.collapsed), ("non_expandable", .boolean r.nonExpandable)]

def toValue (r : Region) : Value := .object r.members

def toJson (r : Region) : String := r.toValue.compact

/-! ## Reading -/

/-- The fields of a region that have been read. -/
structure Draft where
  start : Option Nat := none
  stop : Option Nat := none
  placeholder : Option String := none
  group : Option (Option String) := none
  collapsed : Option Bool := none
  nonExpandable : Option Bool := none

def offset : Reader Nat := Reader.natural UInt64.size "usize"

def member (d : Draft) (name : String) : Reader Draft := do
  match name with
  | "start_offset" => return { d with start := ← Reader.once name d.start offset }
  | "end_offset" => return { d with stop := ← Reader.once name d.stop offset }
  | "placeholder_text" => return { d with placeholder := ← Reader.once name d.placeholder Reader.string }
  | "group" => return { d with group := ← Reader.once name d.group Reader.string? }
  | "collapsed_by_default" =>
    return { d with collapsed := ← Reader.once name d.collapsed Reader.boolean }
  | "non_expandable" =>
    return { d with nonExpandable := ← Reader.once name d.nonExpandable Reader.boolean }
  | _ =>
    Reader.colon
    Reader.skipValue
    return d

/-- The region of the fields that have been read. -/
def Draft.toRegion (d : Draft) : Except Fault Region :=
  match d.start, d.stop, d.placeholder with
  | none, _, _ => .error (.missingField "start_offset")
  | _, none, _ => .error (.missingField "end_offset")
  | _, _, none => .error (.missingField "placeholder_text")
  | some start, some stop, some placeholder => .ok
    { ofRange ⟨start, stop⟩ placeholder with
      group := d.group.getD none
      collapsed := d.collapsed.getD false
      nonExpandable := d.nonExpandable.getD false }

/-- A field that a list of fields must have; so many stand in front of it. -/
def requiredField {α : Type} (before : Nat) (read : Reader α) : Reader α := do
  match ← Reader.listField (before == 0) read with
  | some a => return a
  | none => throw (.invalidLength before "struct RegionFields with 6 elements")

/-- The fields in a list. -/
def ofList : Reader Region := do
  Reader.pass
  let start ← requiredField 0 offset
  let stop ← requiredField 1 offset
  let placeholder ← requiredField 2 Reader.string
  let group ← Reader.listField false Reader.string?
  let collapsed ← Reader.listField false Reader.boolean
  let nonExpandable ← Reader.listField false Reader.boolean
  Reader.closeList
  Draft.toRegion ⟨some start, some stop, some placeholder, group, collapsed, nonExpandable⟩

def reader : Reader Region := do
  match ← Reader.peek with
  | some '\x7b' => (← Reader.foldMembers member {}).toRegion
  | some '[' => ofList
  | _ => Reader.mismatch "struct RegionFields"

def ofJson (text : String) : Except Fault Region := Reader.read reader text

end Region

end GlyphFold
