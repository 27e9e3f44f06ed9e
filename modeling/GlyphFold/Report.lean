import GlyphFold.Fold
import GlyphFold.Language

/-!
# Reports

What a scan of a project found: its files with their folds, and counts over them. A grouped report
keeps the files of Python apart from those of JavaScript and TypeScript.

1. `SourceFile`, `Stats.addFile`: files and counts
2. `Report.grouped`: the two sections, each with counts of its own
-/

namespace GlyphFold

structure SourceFile where
  /-- The path below the root of the project. -/
  path : String
  fullPath : String
  language : Language
  folds : List Fold
  lineCount : Nat
  /-- The file could be read and has its folds. -/
  parsed : Bool
  /-- Why it could not be read. -/
  error : Option String := none
  deriving DecidableEq, Repr

/-! ## Counts -/

/-- How often each glyph is shown, by glyph. -/
abbrev GlyphCounts := List (String × Nat)

/-- Adds to the count of a glyph; the glyphs stay in increasing order. -/
def GlyphCounts.add (glyph : String) (count : Nat) : GlyphCounts → GlyphCounts
  | [] => [(glyph, count)]
  | (g, n) :: rest =>
    if glyph < g then (glyph, count) :: (g, n) :: rest
    else if glyph = g then (g, n + count) :: rest
    else (g, n) :: GlyphCounts.add glyph count rest

structure Stats where
  totalFiles : Nat := 0
  failedFiles : Nat := 0
  totalFolds : Nat := 0
  pythonFiles : Nat := 0
  javascriptFiles : Nat := 0
  typescriptFiles : Nat := 0
  totalLines : Nat := 0
  glyphs : GlyphCounts := []
  deriving DecidableEq, Repr

namespace Stats

def addFold (s : Stats) (r : Region) : Stats :=
  { s with
    totalFolds := s.totalFolds + 1
    glyphs := s.glyphs.add r.placeholder 1 }

def addLanguage (s : Stats) : Language → Stats
  | .python => { s with pythonFiles := s.pythonFiles + 1 }
  | .javascript => { s with javascriptFiles := s.javascriptFiles + 1 }
  | .typescript => { s with typescriptFiles := s.typescriptFiles + 1 }

def addFile (s : Stats) (f : SourceFile) : Stats :=
  let counted := { s.addLanguage f.language with
    totalFiles := s.totalFiles + 1
    failedFiles := s.failedFiles + (if f.parsed then 0 else 1)
    totalLines := s.totalLines + f.lineCount }
  f.folds.foldl (fun s fold => s.addFold fold.region) counted

/-- The counts over a list of files. -/
def ofFiles (files : List SourceFile) : Stats := files.foldl addFile {}

end Stats

/-! ## Reports -/

/-- How a scan went. -/
structure ScanNotes where
  durationMs : Nat := 0
  filesPerSecond : Float := 0
  timestamp : String
  toolVersion : String
  mappingsCount : Nat
  textMode : Bool
  deriving Repr

structure Report where
  root : String
  files : List SourceFile
  stats : Stats
  notes : ScanNotes
  deriving Repr

/-- The files of some languages, with their counts. -/
structure LanguageSection where
  files : List SourceFile
  stats : Stats
  deriving DecidableEq, Repr

structure GroupedReport where
  root : String
  python : LanguageSection
  nodejs : LanguageSection
  notes : ScanNotes
  deriving Repr

def LanguageSection.ofFiles (files : List SourceFile) : LanguageSection := ⟨files, .ofFiles files⟩

namespace Report

def grouped (r : Report) : GroupedReport where
  root := r.root
  python := .ofFiles (r.files.filter (·.language = .python))
  nodejs := .ofFiles (r.files.filter (·.language ≠ .python))
  notes := r.notes

end Report

end GlyphFold
