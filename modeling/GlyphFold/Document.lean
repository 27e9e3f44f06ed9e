import GlyphFold.Table

/-!
# Mapping documents

What is written when a table is exported: its mappings and categories, with notes on where and when
that was done. Only the mappings count when a document is read back.
-/

namespace GlyphFold

structure Metadata where
  version : Nat := 0
  exportDate : String := ""
  pluginVersion : String := ""
  ideVersion : String := ""
  mappingsCount : Nat := 0
  comment : String := ""
  deriving DecidableEq, Repr, Inhabited

structure Document where
  metadata : Metadata := {}
  mappings : List Mapping
  categories : List String := []
  deriving DecidableEq, Repr, Inhabited

namespace Document

/-- The version of the document format. -/
def formatVersion : Nat := 1

/-- A document of a table as it stands, with the date as it is to be written. -/
def ofTable (t : Table) (pluginVersion ideVersion exportDate : String) : Document where
  metadata :=
    { version := formatVersion
      exportDate := exportDate
      pluginVersion := pluginVersion
      ideVersion := ideVersion
      mappingsCount := t.all.length }
  mappings := t.all
  categories := t.categories

/-- The table of the mappings; of two with one source the later wins. -/
def toTable (d : Document) : Table := .ofMappings d.mappings

/-- The name of a file for an export at the time of a stamp. -/
def fileName (stamp : String) : String := "prettify_python_mappings_" ++ stamp ++ ".json"

end Document

end GlyphFold
