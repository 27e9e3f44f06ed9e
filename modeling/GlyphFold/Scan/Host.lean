import GlyphFold.Scan.Scanner

/-!
# Scans on a host

A scan opens files and asks for the trees of their sources. The host that it runs on can refuse
both: a file may be closed to the reader, and a parser may give no tree. The file is then reported
with the reason, and the scan goes on.

1. `ParserFault`: why a source has no tree
2. `Host`: what a host refuses, and the trees that it gives
3. `Scanner.sourceFileOn`, `Scanner.scanFileOn`, `Scanner.scanOn`: the report of a file and of a
   project
4. `Scanner.scanFileOn_willing`, `Scanner.scanOn_willing`: the same on a host that refuses nothing
-/

namespace GlyphFold

/-- Why a source has no tree. -/
inductive ParserFault where
  /-- The parser does not take the grammar of the language. -/
  | noParser (reason : String)
  | noTree (l : Language)
  deriving DecidableEq, Repr

def ParserFault.message : ParserFault → String
  | noParser reason => "Failed to initialize parser: " ++ reason
  | noTree l => "Failed to parse source code: " ++ l.name ++ " parser returned no tree"

structure Host where
  /-- Why the file at a place below the root cannot be read, if it cannot. -/
  refusal? : List String → Option FileError
  /-- The tree of a source. -/
  parse : Language → String → Except ParserFault TokenTree

namespace Host

/-- Opens every file and has a tree of every source. -/
def willing : Host where
  refusal? _ := none
  parse l source := .ok (l.tokenTree source)

/-- The text of the file at a place below the root, unless the host refuses it. -/
def unlessRefused (h : Host) (place : List String) (text : Except FileError String) :
    Except FileError String :=
  match h.refusal? place with
  | some e => .error e
  | none => text

/-- The text of a file that a walk found. -/
def textOf (h : Host) (f : FoundFile) : Except FileError String :=
  h.unlessRefused f.place (FileSystem.textOf f.bytes)

/-- The text of the file at a path. Of a path that does not start with the root the host knows
nothing. -/
def readText (h : Host) (fs : FileSystem) (root path : String) : Except FileError String :=
  match Path.stripRoot? root path with
  | some below => h.unlessRefused (Path.place below) (fs.readText path)
  | none => fs.readText path

theorem readText_willing (fs : FileSystem) (root path : String) :
    willing.readText fs root path = fs.readText path := by
  unfold readText
  cases Path.stripRoot? root path <;> rfl

end Host

namespace Scanner

/-- The regions of a source. Text mode asks for no tree. -/
def regionsOn (sc : Scanner) (h : Host) (source : String) (l : Language) :
    Except ParserFault (List Region) :=
  if sc.settings.textMode then .ok (sc.resolver.resolveText source)
  else (h.parse l source).map fun t => sc.resolver.resolve t l.grammar 0

/-- The report of a file that was not read, or not folded. -/
def failedFile (sc : Scanner) (path : String) (l : Language) (lineCount : Nat) (error : String) :
    SourceFile where
  path := (Path.stripRoot? sc.settings.root path).getD path
  fullPath := path
  language := l
  folds := []
  lineCount := lineCount
  parsed := false
  error := some error

/-- The report of a file that was read and folded. -/
def foldedFile (sc : Scanner) (path : String) (l : Language) (source : String)
    (regions : List Region) : SourceFile where
  path := (Path.stripRoot? sc.settings.root path).getD path
  fullPath := path
  language := l
  folds := locateFolds source regions
  lineCount := Text.lineCount source.toList
  parsed := true

/-- The report of a file, given its text or why there is none. One that is read but not folded keeps
its line count. -/
def sourceFileOn (sc : Scanner) (h : Host) (path : String) (l : Language)
    (text : Except FileError String) : SourceFile :=
  match text with
  | .error e => sc.failedFile path l 0 e.message
  | .ok source =>
    match sc.regionsOn h source l with
    | .error e =>
      sc.failedFile path l (Text.lineCount source.toList) ("Parser error: " ++ e.message)
    | .ok regions => sc.foldedFile path l source regions

/-- The paths of an entry do not depend on what is in the file. -/
theorem paths_sourceFileOn (sc : Scanner) (h : Host) (path : String) (l : Language)
    (text : Except FileError String) :
    (sc.sourceFileOn h path l text).path = (Path.stripRoot? sc.settings.root path).getD path ∧
      (sc.sourceFileOn h path l text).fullPath = path := by
  unfold sourceFileOn
  split
  · exact ⟨rfl, rfl⟩
  · split <;> exact ⟨rfl, rfl⟩

section Source

variable {sc : Scanner} {h : Host} {source : String} {l : Language}

theorem sourceFileOn_of_regions {regions : List Region}
    (hregions : sc.regionsOn h source l = .ok regions) (path : String) :
    sc.sourceFileOn h path l (.ok source) = sc.foldedFile path l source regions := by
  simp only [sourceFileOn, hregions]

theorem sourceFileOn_of_fault {e : ParserFault} (he : sc.regionsOn h source l = .error e)
    (path : String) :
    sc.sourceFileOn h path l (.ok source) =
      sc.failedFile path l (Text.lineCount source.toList) ("Parser error: " ++ e.message) := by
  simp only [sourceFileOn, he]

end Source

/-- The report of a file that a walk found. -/
def foundFileOn (sc : Scanner) (h : Host) (f : FoundFile) : SourceFile :=
  sc.sourceFileOn h f.path f.language (h.textOf f)

theorem path_foundFileOn (sc : Scanner) (h : Host) (f : FoundFile) :
    (sc.foundFileOn h f).path = (Path.stripRoot? sc.settings.root f.path).getD f.path :=
  (sc.paths_sourceFileOn h _ _ _).1

theorem fullPath_foundFileOn (sc : Scanner) (h : Host) (f : FoundFile) :
    (sc.foundFileOn h f).fullPath = f.path := (sc.paths_sourceFileOn h _ _ _).2

/-- The report of one file, whatever the filter says of it. -/
def scanFileOn (sc : Scanner) (h : Host) (fs : FileSystem) (path : String) :
    Except ScanFault SourceFile := do
  return sc.sourceFileOn h path (← languageOf path) (h.readText fs sc.settings.root path)

/-- The report of a project. -/
def scanOn (sc : Scanner) (h : Host) (fs : FileSystem) (times : ScanTimes) :
    Except ScanFault Report :=
  let files := (Scan.sourceFiles fs sc.settings sc.filter).map (sc.foundFileOn h)
  .ok { sc.scan fs times with files := files, stats := .ofFiles files }

/-- The entries of a scan on a host. -/
def entriesOn (sc : Scanner) (h : Host) (fs : FileSystem) : List SourceFile :=
  (Scan.sourceFiles fs sc.settings sc.filter).map (sc.foundFileOn h)

/-- Every scan gives a report. -/
theorem exists_scanOn (sc : Scanner) (h : Host) (fs : FileSystem) (times : ScanTimes) :
    ∃ report, sc.scanOn h fs times = .ok report ∧ report.files = sc.entriesOn h fs ∧
      report.stats = .ofFiles (sc.entriesOn h fs) :=
  ⟨_, rfl, rfl, rfl⟩

/-! ## Willing hosts -/

theorem regionsOn_willing (sc : Scanner) (source : String) (l : Language) :
    sc.regionsOn .willing source l = .ok (sc.regions source l) := by
  unfold regionsOn regions
  split <;> rfl

theorem sourceFileOn_willing (sc : Scanner) (path : String) (l : Language)
    (text : Except FileError String) :
    sc.sourceFileOn .willing path l text = sc.sourceFile path l text := by
  unfold sourceFileOn sourceFile
  cases text with
  | error e => rfl
  | ok source =>
    simp only [regionsOn_willing]
    rfl

theorem foundFileOn_willing (sc : Scanner) (f : FoundFile) :
    sc.foundFileOn .willing f = sc.foundFile f :=
  sc.sourceFileOn_willing f.path f.language (FileSystem.textOf f.bytes)

theorem scanFileOn_willing (sc : Scanner) (fs : FileSystem) (path : String) :
    sc.scanFileOn .willing fs path = sc.scanFile fs path := by
  unfold scanFileOn scanFile
  simp only [Host.readText_willing, sourceFileOn_willing]

/-- A host that refuses nothing leaves the scan as it is. -/
theorem scanOn_willing (sc : Scanner) (fs : FileSystem) (times : ScanTimes) :
    sc.scanOn .willing fs times = .ok (sc.scan fs times) := by
  have hfile : sc.foundFileOn .willing = sc.foundFile := funext (foundFileOn_willing sc)
  unfold scanOn
  rw [hfile]
  rfl

end Scanner

end GlyphFold
