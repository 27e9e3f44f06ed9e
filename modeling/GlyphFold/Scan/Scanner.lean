import GlyphFold.Builtin
import GlyphFold.Document.Json
import GlyphFold.Fold
import GlyphFold.Parsing.PythonStatements
import GlyphFold.Parsing.ScriptStatements
import GlyphFold.Render
import GlyphFold.Report
import GlyphFold.Resolver
import GlyphFold.Scan.Walk

/-!
# Scanners

A scanner folds the sources of a project: all of them in a scan, or a file at a time. A file that
cannot be read fails alone, and the report says why.

1. `DocumentFault`, `ScanFault`: why there is no scanner, or no answer
2. `Language.tokenTree`: the tree of a source
3. `loadTable`, `Scanner.new`: the table and the filter of some settings
4. `Scanner.regions`: the regions of a source
5. `Scanner.scan`, `Scanner.scanFile`: files with their folds
6. `Scanner.renderFile`: files with their glyphs
-/

namespace GlyphFold

/-! ## Faults -/

/-- Why a mappings document cannot be used. -/
inductive DocumentFault where
  | file (e : FileError)
  | json (e : Json.Fault)

/-- The messages of a fault, each the cause of the one before. -/
def DocumentFault.messages : DocumentFault → List String
  | file e => ["IO error: " ++ e.message, e.message]
  | json e => ["Invalid mappings document: " ++ e.message, e.message]

inductive ScanFault where
  | file (e : FileError)
  | glob (e : Ignore.BadGlob)
  | document (e : DocumentFault)
  | resolver (e : ResolverFault)
  | unsupported (path : String)

/-- The messages of a fault, each the cause of the one before. -/
def ScanFault.messages : ScanFault → List String
  | file e => ["IO error: " ++ e.message, e.message]
  | glob e => ["Config error: " ++ e.message, e.message, e.cause]
  | document e => ("Settings error: " ++ e.messages.headD "") :: e.messages
  | resolver e => ("Mapping error: " ++ e.messages.headD "") :: e.messages
  | unsupported path => ["Unsupported file extension: " ++ path]

/-! ## Trees -/

/-- The token tree of a source in a language. Every source has one: what fits no phrase becomes
stray tokens. -/
def Language.tokenTree (l : Language) (source : String) : TokenTree :=
  match l with
  | python => Parsing.Python.tokenTree source
  | javascript => Parsing.Script.tokenTree false source
  | typescript => Parsing.Script.tokenTree true source

/-! ## Tables -/

def loadDocument (fs : FileSystem) (path : String) : Except DocumentFault Document := do
  let text ← (fs.readText path).mapError .file
  (Document.ofJson text).mapError .json

/-- The table of the mappings document that the settings name, or the built-in one. -/
def loadTable (fs : FileSystem) (s : Settings) : Except DocumentFault Table :=
  match s.mappingsFile with
  | some path => (loadDocument fs path).map Document.toTable
  | none => .ok .builtin

/-! ## Scanners -/

structure Scanner where
  settings : Settings
  filter : Ignore.Filter
  resolver : Resolver

/-- What one scan tells beside its files. -/
structure ScanTimes where
  durationMs : Nat := 0
  filesPerSecond : Float := 0
  timestamp : String

/-- The version that reports and documents name. -/
def toolVersion : String := "0.1.0"

structure RenderedFile where
  path : String
  content : String
  foldCount : Nat
  deriving DecidableEq, Repr

namespace Scanner

/-- A scanner with a resolver of its own. -/
def withResolver (fs : FileSystem) (s : Settings) (r : Resolver) : Except ScanFault Scanner := do
  return ⟨s, ← (Ignore.Filter.new fs s).mapError .glob, r⟩

/-- A scanner with the table of the settings and the built-in predicates. -/
def new (engine : Engine) (fs : FileSystem) (s : Settings) : Except ScanFault Scanner := do
  let table ← (loadTable fs s).mapError .document
  let resolver ← (Resolver.new engine table .builtin).mapError .resolver
  withResolver fs s resolver

/-- The regions of a source: of its tokens, or of its flat text in text mode. -/
def regions (sc : Scanner) (source : String) (l : Language) : List Region :=
  if sc.settings.textMode then sc.resolver.resolveText source
  else sc.resolver.resolve (l.tokenTree source) l.grammar 0

/-! ## Reports -/

/-- The report of a file, given its text or why there is none. -/
def sourceFile (sc : Scanner) (path : String) (l : Language) (text : Except FileError String) :
    SourceFile :=
  let shown := (Path.stripRoot? sc.settings.root path).getD path
  match text with
  | .ok source =>
    { path := shown
      fullPath := path
      language := l
      folds := locateFolds source (sc.regions source l)
      lineCount := Text.lineCount source.toList
      parsed := true }
  | .error e =>
    { path := shown
      fullPath := path
      language := l
      folds := []
      lineCount := 0
      parsed := false
      error := some e.message }

/-- The report of a file that a walk found. -/
def foundFile (sc : Scanner) (f : FoundFile) : SourceFile :=
  sc.sourceFile f.path f.language (FileSystem.textOf f.bytes)

/-- The report of a project. -/
def scan (sc : Scanner) (fs : FileSystem) (times : ScanTimes) : Report :=
  let files := (Scan.sourceFiles fs sc.settings sc.filter).map sc.foundFile
  { root := sc.settings.root
    files := files
    stats := .ofFiles files
    notes :=
      { durationMs := times.durationMs
        filesPerSecond := times.filesPerSecond
        timestamp := times.timestamp
        toolVersion := toolVersion
        mappingsCount := sc.resolver.table.size
        textMode := sc.settings.textMode } }

/-- The language of a file, which its path must tell. -/
def languageOf (path : String) : Except ScanFault Language :=
  match Language.ofPath? path with
  | some l => .ok l
  | none => .error (.unsupported path)

/-- The report of one file, whatever the filter says of it. -/
def scanFile (sc : Scanner) (fs : FileSystem) (path : String) : Except ScanFault SourceFile := do
  return sc.sourceFile path (← languageOf path) (fs.readText path)

/-! ## Rendering -/

/-- The language that a file is rendered in. A path without an extension counts as one with an empty
extension. -/
def renderedLanguage (path : String) : Except ScanFault Language :=
  match Language.ofExtension? ((Path.extension? path).getD "") with
  | some l => .ok l
  | none => .error (.unsupported path)

/-- A file with its glyphs, in colour or not. -/
def renderFile (sc : Scanner) (fs : FileSystem) (path : String) (colored : Bool) :
    Except ScanFault RenderedFile := do
  let l ← renderedLanguage path
  let source ← (fs.readText path).mapError .file
  let rendered := renderCounted sc.resolver.table source (sc.regions source l) colored
  return { path := path, content := rendered.1, foldCount := rendered.2 }

end Scanner

end GlyphFold
