import GlyphFold.Region.Json
import GlyphFold.Report.Summary
import GlyphFold.Yaml.Printer

/-!
# Formats of a report

A report is written as a value, with the same members for JSON and for YAML, or as a summary. A fold
is one object with the members of its region in front.

1. `Report.toValue`, `GroupedReport.toValue`: reports as values
2. `Report.text`: the text in a format
-/

namespace GlyphFold

/-! ## Values -/

open Json (Value)

def Fold.toValue (f : Fold) : Value := .object
  (f.region.members ++
    [("original", .string f.original), ("line", .natural f.line), ("column", .natural f.column)])

/-- A file that could be read has no error member. -/
def SourceFile.toValue (f : SourceFile) : Value := .object
  ([("path", .string f.path), ("absolute_path", .string f.fullPath),
    ("language", .string f.language.name), ("folds", .list (f.folds.map Fold.toValue)),
    ("line_count", .natural f.lineCount), ("parsed", .boolean f.parsed)] ++
   match f.error with
   | some e => [("error", .string e)]
   | none => [])

def Stats.toValue (s : Stats) : Value := .object
  [("total_files", .natural s.totalFiles), ("failed_files", .natural s.failedFiles),
   ("total_folds", .natural s.totalFolds), ("python_files", .natural s.pythonFiles),
   ("javascript_files", .natural s.javascriptFiles),
   ("typescript_files", .natural s.typescriptFiles), ("total_lines", .natural s.totalLines),
   ("glyphs", .object (s.glyphs.map fun (glyph, count) => (glyph, .natural count)))]

def ScanNotes.toValue (n : ScanNotes) : Value := .object
  [("scan_duration_ms", .natural n.durationMs), ("files_per_second", .float n.filesPerSecond),
   ("timestamp", .string n.timestamp), ("tool_version", .string n.toolVersion),
   ("mappings_count", .natural n.mappingsCount), ("text_mode", .boolean n.textMode)]

def LanguageSection.toValue (s : LanguageSection) : Value := .object
  [("files", .list (s.files.map SourceFile.toValue)), ("stats", s.stats.toValue)]

def Report.toValue (r : Report) : Value := .object
  [("root", .string r.root), ("files", .list (r.files.map SourceFile.toValue)),
   ("stats", r.stats.toValue), ("metadata", r.notes.toValue)]

def GroupedReport.toValue (r : GroupedReport) : Value := .object
  [("root", .string r.root), ("python", r.python.toValue), ("nodejs", r.nodejs.toValue),
   ("metadata", r.notes.toValue)]

/-! ## Texts -/

inductive ReportFormat where
  | json
  | yaml
  | summary
  /-- A summary with colors. -/
  | ansi
  deriving DecidableEq, Repr

namespace Report

/-- The text of a report, its files in one list or grouped by language. -/
def text (r : Report) (format : ReportFormat) (grouped : Bool) : String :=
  let value := if grouped then r.grouped.toValue else r.toValue
  let summary (p : Palette) := if grouped then r.grouped.summary p else r.summary p
  match format with
  | .json => value.pretty
  | .yaml => Yaml.text value
  | .summary => summary .plain
  | .ansi => summary .colored

/-- A report as JSON on one line. -/
def compact (r : Report) : String := r.toValue.compact

end Report

end GlyphFold
