import GlyphFold.Document
import GlyphFold.Json.Reader

/-!
# Mapping documents as JSON

A document is one object: the metadata, `mappings` and `categories`. Mappings and categories are
checked while they are read; the metadata are checked when the whole object has been read and has its
mappings. A mapping may also be a list of its fields. Members with other names are passed over.
-/

namespace GlyphFold

open Json

/-! ## Writing -/

namespace Mapping

/-- A condition that always holds is left out. -/
def toValue (m : Mapping) : Value := .object
  ([("from", .string m.source), ("to", .string m.glyph), ("category", .string m.category)] ++
    if m.condition = .always then [] else [("condition", .string m.condition.text)])

end Mapping

namespace Document

def toValue (d : Document) : Value := .object
  [("version", .natural d.metadata.version),
   ("exportDate", .string d.metadata.exportDate),
   ("pluginVersion", .string d.metadata.pluginVersion),
   ("ideVersion", .string d.metadata.ideVersion),
   ("mappingsCount", .natural d.metadata.mappingsCount),
   ("comment", .string d.metadata.comment),
   ("mappings", .list (d.mappings.map Mapping.toValue)),
   ("categories", .list (d.categories.map .string))]

def toJson (d : Document) : String := d.toValue.pretty

end Document

/-! ## Reading mappings -/

/-- The fields of a mapping that have been read. -/
structure MappingDraft where
  source : Option String := none
  glyph : Option String := none
  category : Option String := none
  condition : Option String := none

namespace MappingDraft

/-- A field that is missing is empty. -/
def toMapping (d : MappingDraft) : Mapping where
  source := d.source.getD ""
  glyph := d.glyph.getD ""
  category := d.category.getD ""
  condition := .ofText (d.condition.getD "")

end MappingDraft

namespace Mapping

def member (d : MappingDraft) (name : String) : Reader MappingDraft := do
  match name with
  | "from" => return { d with source := ← Reader.once name d.source Reader.string }
  | "to" => return { d with glyph := ← Reader.once name d.glyph Reader.string }
  | "category" => return { d with category := ← Reader.once name d.category Reader.string }
  | "condition" => return { d with condition := ← Reader.once name d.condition Reader.string }
  | _ =>
    Reader.colon
    Reader.skipValue
    return d

/-- The fields in a list; those missing at its end are empty. -/
def ofList : Reader Mapping := do
  Reader.pass
  let source ← Reader.listField true Reader.string
  let glyph ← Reader.listField false Reader.string
  let category ← Reader.listField false Reader.string
  let condition ← Reader.listField false Reader.string
  Reader.closeList
  return (MappingDraft.mk source glyph category condition).toMapping

def reader : Reader Mapping := do
  match ← Reader.peek with
  | some '\x7b' => return (← Reader.foldMembers member {}).toMapping
  | some '[' => ofList
  | _ => Reader.mismatch "struct MappingEntry"

end Mapping

/-! ## Reading documents -/

def sequenceOf {α : Type} (item : Reader α) : Reader (List α) := do
  if (← Reader.peek) = some '[' then Reader.listOf item else Reader.mismatch "a sequence"

namespace Document

/-- What has been read of a document: its two lists, and the other members as they came. -/
structure Draft where
  mappings : Option (List Mapping) := none
  categories : Option (List String) := none
  others : List (String × Value) := []

/-- How many lists and objects may lie inside one another in the members of a document. -/
def depthLimit : Nat := 126

def member (d : Draft) (name : String) : Reader Draft := do
  match name with
  | "mappings" =>
    return { d with mappings := ← Reader.once name d.mappings (sequenceOf Mapping.reader) }
  | "categories" =>
    return { d with categories := ← Reader.once name d.categories (sequenceOf Reader.string) }
  | _ =>
    Reader.colon
    let v ← Reader.value depthLimit
    return { d with others := d.others ++ [(name, v)] }

def naturalOf (bound : Nat) (expected : String) : Value → Except Fault Nat
  | .integer n =>
    if 0 ≤ n ∧ n < bound then .ok n.toNat else .error (.invalidValue (.integer n) expected)
  | v => .error (.invalidType v.found expected)

def textOf : Value → Except Fault String
  | .string s => .ok s
  | v => .error (.invalidType v.found "a string")

/-- The metadata that have been read. -/
structure MetadataDraft where
  version : Option Nat := none
  exportDate : Option String := none
  pluginVersion : Option String := none
  ideVersion : Option String := none
  mappingsCount : Option Nat := none
  comment : Option String := none

def MetadataDraft.toMetadata (d : MetadataDraft) : Metadata where
  version := d.version.getD 0
  exportDate := d.exportDate.getD ""
  pluginVersion := d.pluginVersion.getD ""
  ideVersion := d.ideVersion.getD ""
  mappingsCount := d.mappingsCount.getD 0
  comment := d.comment.getD ""

/-- A value for a name that must not have one. -/
def once {α : Type} (name : String) (old : Option α) (value : Except Fault α) :
    Except Fault (Option α) :=
  if old.isSome then .error (.duplicateField name) else value.map some

def metadataMember (d : MetadataDraft) (m : String × Value) : Except Fault MetadataDraft := do
  let (name, v) := m
  match name with
  | "version" => return { d with version := ← once name d.version (naturalOf UInt32.size "u32" v) }
  | "exportDate" => return { d with exportDate := ← once name d.exportDate (textOf v) }
  | "pluginVersion" => return { d with pluginVersion := ← once name d.pluginVersion (textOf v) }
  | "ideVersion" => return { d with ideVersion := ← once name d.ideVersion (textOf v) }
  | "mappingsCount" =>
    return { d with mappingsCount := ← once name d.mappingsCount (naturalOf UInt64.size "usize" v) }
  | "comment" => return { d with comment := ← once name d.comment (textOf v) }
  | _ => return d

/-- The document of what has been read. -/
def Draft.toDocument (d : Draft) : Except Fault Document :=
  match d.mappings with
  | none => .error (.missingField "mappings")
  | some mappings => do
    let metadata ← d.others.foldlM metadataMember {}
    return ⟨metadata.toMetadata, mappings, d.categories.getD []⟩

def reader : Reader Document := do
  if (← Reader.peek) = some '\x7b' then
    let draft ← Reader.foldMembers member {}
    draft.toDocument
  else Reader.mismatch "struct MappingsDocument"

def ofJson (text : String) : Except Fault Document := Reader.read reader text

end Document

end GlyphFold
