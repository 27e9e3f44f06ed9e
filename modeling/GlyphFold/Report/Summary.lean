import GlyphFold.Decimal.Binary
import GlyphFold.Report

/-!
# Summaries

A report for reading: counts, glyphs from the most to the least frequent, and in a grouped report the
files with the most folds. `Palette.plain` and `Palette.colored` differ in escape sequences only.
-/

namespace GlyphFold

/-- The escape sequences between which parts of a summary stand. -/
structure Palette where
  bold : String := ""
  reset : String := ""
  cyan : String := ""
  green : String := ""
  yellow : String := ""
  dim : String := ""

namespace Palette

def plain : Palette := {}

def colored : Palette where
  bold := "\x1b[1m"
  reset := "\x1b[0m"
  cyan := "\x1b[36m"
  green := "\x1b[32m"
  yellow := "\x1b[33m"
  dim := "\x1b[2m"

/-- A label in front of a value. -/
def label (p : Palette) (text : String) : String := p.dim ++ text ++ p.reset

end Palette

/-- A rate with two places. -/
def rateText (x : Float) : String :=
  match Decimal.Binary.ofFloat? x with
  | some b => b.fixed 2
  | none => if x.isNaN then "NaN" else if x < 0 then "-inf" else "inf"

/-- The glyphs of a report, the most frequent first and equally frequent ones in order. -/
def Stats.ranking (s : Stats) : List (String × Nat) :=
  s.glyphs.mergeSort fun a b => b.2 < a.2 || (a.2 == b.2 && a.1 ≤ b.1)

/-- The five files with the most folds; those with equally many keep their order. -/
def LanguageSection.topFiles (s : LanguageSection) : List SourceFile :=
  ((s.files.filter (!·.folds.isEmpty)).mergeSort fun a b =>
    decide (b.folds.length ≤ a.folds.length)).take 5

section

variable (p : Palette)

def heading (title underline root : String) : String :=
  p.bold ++ p.cyan ++ title ++ p.reset ++ "\n" ++ p.cyan ++ underline ++ p.reset ++ "\n" ++
    p.label "Root:" ++ " " ++ root ++ "\n\n"

def durationLine (n : ScanNotes) : String :=
  p.label "Scan Duration:" ++ " " ++ toString n.durationMs ++ "ms (" ++
    rateText n.filesPerSecond ++ " files/sec)\n"

def glyphLine (glyph : String × Nat) : String :=
  "  " ++ p.cyan ++ glyph.1 ++ p.reset ++ " " ++ toString glyph.2 ++ "\n"

def fileLine (f : SourceFile) : String :=
  "  " ++ p.yellow ++ f.path ++ p.reset ++ " (" ++ toString f.folds.length ++ " folds, " ++
    toString f.lineCount ++ " lines)\n"

def Stats.summary (s : Stats) : String :=
  p.label "Files Scanned:" ++ " " ++ toString s.totalFiles ++ " (Python: " ++
    toString s.pythonFiles ++ ", JavaScript: " ++ toString s.javascriptFiles ++
    ", TypeScript: " ++ toString s.typescriptFiles ++ ", failed: " ++ toString s.failedFiles ++
    ")\n" ++
  p.label "Total Lines:" ++ " " ++ toString s.totalLines ++ "\n\n" ++
  p.label "Total Folds:" ++ " " ++ toString s.totalFolds ++ "\n" ++
  String.join (s.ranking.map (glyphLine p)) ++ "\n"

def ScanNotes.summary (n : ScanNotes) : String :=
  p.label "Mappings:" ++ " " ++ toString n.mappingsCount ++
    (if n.textMode then " (text mode)" else "") ++ "\n" ++ durationLine p n ++
  p.label "Timestamp:" ++ " " ++ n.timestamp ++ "\n" ++
  p.label "Tool Version:" ++ " " ++ n.toolVersion ++ "\n"

def Report.summary (r : Report) : String :=
  heading p "Glyph Fold Summary" "==================" r.root ++ r.stats.summary p ++
    r.notes.summary p

def LanguageSection.summary (s : LanguageSection) : String :=
  p.label "Files:" ++ " " ++ toString s.stats.totalFiles ++ " | " ++
  p.label "Lines:" ++ " " ++ toString s.stats.totalLines ++ " | " ++
  p.label "Folds:" ++ " " ++ toString s.stats.totalFolds ++ "\n" ++
  (if s.topFiles.isEmpty then "" else
    p.label "Top files by folds:" ++ "\n" ++ String.join (s.topFiles.map (fileLine p))) ++ "\n"

def GroupedReport.summary (r : GroupedReport) : String :=
  heading p "Glyph Fold Summary (Grouped)" "============================" r.root ++
  p.bold ++ p.green ++ "## Python" ++ p.reset ++ "\n" ++ r.python.summary p ++
  p.bold ++ p.yellow ++ "## Node.js (JavaScript + TypeScript)" ++ p.reset ++ "\n" ++
  r.nodejs.summary p ++ durationLine p r.notes

end

end GlyphFold
