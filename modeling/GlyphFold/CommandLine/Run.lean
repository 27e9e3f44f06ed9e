import GlyphFold.Calendar
import GlyphFold.CommandLine.Arguments
import GlyphFold.ProjectFile
import GlyphFold.Scan.Scanner

/-!
# Running a command line

A run reads files, prints, and writes one file at most. `run` says what a run does, given what it
sees; the program around it does so.

1. `Surroundings`, `Outcome`: what a run sees and what comes of it
2. `failure`: how faults are told
3. `runScan`, `runRender`, `runList`, `runExport`, `runImport`
4. `run`: the run of a command line
-/

namespace GlyphFold.CommandLine

/-- What a run sees. -/
structure Surroundings where
  files : FileSystem
  /-- The date and time as documents and reports show them. -/
  date : String
  /-- The date and time as file names show them. -/
  stamp : String
  /-- The output goes to a terminal. -/
  terminal : Bool := false
  engine : Engine := .willing

structure Outcome where
  code : Nat := 0
  output : String := ""
  errors : String := ""
  /-- The file to write, with its text. -/
  written : Option (String × String) := none
  deriving DecidableEq, Repr

/-! ## Faults -/

/-- A run gives up with a message and its causes. -/
abbrev Run (α : Type) := Except (List String) α

/-- A cause, each of its lines behind the margin; one of several has a number. -/
def causeText (number : Option Nat) (cause : String) : String :=
  let (first, margin) := match number with
    | some n => (String.ofList (List.replicate (5 - (toString n).length) ' ') ++ toString n ++ ": ",
        "       ")
    | none => ("    ", "    ")
  first ++ cause.replace "\n" ("\n" ++ margin)

def causesText : List String → String
  | [] => ""
  | [cause] => "\n\nCaused by:\n" ++ causeText none cause
  | causes => "\n\nCaused by:" ++
      String.join (causes.zipIdx.map fun (cause, n) => "\n" ++ causeText (some n) cause)

/-- The outcome of a run that gave up. -/
def failure : List String → Outcome
  | [] => { code := 1 }
  | message :: causes =>
    { code := 1, errors := "Error: " ++ message ++ causesText causes ++ "\n" }

/-- Says in front of a fault what could not be done. -/
def inContext {α : Type} (context : String) (r : Run α) : Run α := r.mapError (context :: ·)

/-! ## Commands -/

/-- The settings of the arguments with the project file underneath. -/
def settingsOf (a : Arguments) (fs : FileSystem) : Run Settings :=
  match a.config with
  | some path => do
    let file ← inContext ("cannot load config " ++ path)
      ((ProjectFile.load fs path).mapError ProjectFault.messages)
    (a.settings.merge file ((Path.parent? path).getD ".")).mapError fun e => [e.message]
  | none => (a.settings.discover fs).mapError ProjectFault.messages

def scannerOf (a : Arguments) (sur : Surroundings) : Run Scanner := do
  (Scanner.new sur.engine sur.files (← settingsOf a sur.files)).mapError ScanFault.messages

def checkWrite (fs : FileSystem) (path : String) : Run Unit :=
  (fs.checkWrite path).mapError fun e => [e.message]

def runScan (a : Arguments) (sur : Surroundings) : Run Outcome := do
  let sc ← scannerOf a sur
  let text := (sc.scan sur.files { timestamp := sur.date }).text a.format (!a.flat)
  match a.output with
  | none => return { output := text ++ "\n" }
  | some path =>
    checkWrite sur.files path
    return {
      written := some (path, text)
      errors := if a.verbose then "Output written to: " ++ path ++ "\n" else "" }

def runRender (file : String) (ansi : Bool) (a : Arguments) (sur : Surroundings) : Run Outcome := do
  let sc ← scannerOf a sur
  let r ← (sc.renderFile sur.files file (ansi || (sur.terminal && !a.noColor))).mapError
    ScanFault.messages
  return {
    output := r.content
    errors := if a.verbose then "\n--- " ++ toString r.foldCount ++ " glyphs applied ---\n" else "" }

/-- A line for a fold, counted from 1. -/
def foldLine (f : Fold) (n : Nat) : String :=
  toString (n + 1) ++ ". " ++ toString f.line ++ ":" ++ toString (f.column + 1) ++ " " ++
    f.original ++ " -> " ++ f.region.placeholder ++ "\n"

def listText (f : SourceFile) : String :=
  "File: " ++ f.path ++ "\nLanguage: " ++ f.language.name ++ "\nLine Count: " ++
    toString f.lineCount ++ "\nFolds: " ++ toString f.folds.length ++ "\n\n" ++
    String.join (f.folds.zipIdx.map fun (fold, n) => foldLine fold n)

def runList (file : String) (format : ReportFormat) (a : Arguments) (sur : Surroundings) :
    Run Outcome := do
  let sc ← scannerOf a sur
  let f ← (sc.scanFile sur.files file).mapError ScanFault.messages
  match f.error with
  | some e => throw ["cannot fold " ++ file ++ ": " ++ e]
  | none =>
    let text := match format with
      | .json => f.toValue.pretty
      | .yaml => Yaml.text f.toValue
      | .summary | .ansi => listText f
    return { output := text ++ "\n" }

/-- The document that an export writes. -/
def exported (t : Table) (date : String) : Document :=
  .ofTable t toolVersion "prettyfold-cli" date

def runExport (output : Option String) (print : Bool) (a : Arguments) (sur : Surroundings) :
    Run Outcome := do
  let s ← settingsOf a sur.files
  let t ← (loadTable sur.files s).mapError DocumentFault.messages
  let d := exported t sur.date
  if print then return { output := d.toJson ++ "\n" }
  let path := output.getD (Document.fileName sur.stamp)
  inContext ("cannot write " ++ path)
    ((sur.files.checkWrite path).mapError fun e => (DocumentFault.file e).messages)
  return {
    written := some (path, d.toJson)
    errors := "Exported " ++ toString d.metadata.mappingsCount ++ " mappings to " ++ path ++ "\n" }

/-- A line for a category with its mappings. -/
def categoryLine (t : Table) (category : String) : String :=
  let label := if category = "" then "(uncategorized)" else category
  "  " ++ label ++ ": " ++
    ", ".intercalate ((t.entriesIn category).map fun m => m.source ++ " " ++ m.glyph) ++ "\n"

def tableText (t : Table) : String :=
  toString t.size ++ " mappings in " ++ toString t.categories.length ++ " categories" ++
    (if t.isBuiltin then " (built-in set)" else "") ++ "\n" ++
    String.join (t.categories.map (categoryLine t))

/-- A document is good if a scan could use its table. -/
def runImport (file : String) (sur : Surroundings) : Run Outcome := do
  let d ← inContext ("cannot import " ++ file)
    ((loadDocument sur.files file).mapError DocumentFault.messages)
  let t := d.toTable
  let _ ← (Resolver.new sur.engine t .builtin).mapError ResolverFault.messages
  return { output := tableText t }

/-! ## The whole -/

def helpText : String :=
  "Cosmetic token folding for Python and Node.js/TypeScript\n\n" ++
  "Usage: prettyfold [OPTIONS] [PATH] [COMMAND]\n\n" ++
  "Commands: render FILE, list FILE, export, import FILE, help\n"

def runArguments (a : Arguments) (sur : Surroundings) : Run Outcome :=
  match a.command with
  | .scan => runScan a sur
  | .render file ansi => runRender file ansi a sur
  | .list file format => runList file format a sur
  | .exportTable output print => runExport output print a sur
  | .importTable file => runImport file sur

/-- What comes of a command line. -/
def run (words : List String) (sur : Surroundings) : Outcome :=
  match Arguments.ofWords words with
  | .error .misuse => { code := 2, errors := "error: misuse of the command line\n\n" ++ helpText }
  | .error .help => { output := helpText }
  | .error .version => { output := "prettyfold " ++ toolVersion ++ "\n" }
  | .ok a =>
    match runArguments a sur with
    | .ok outcome => outcome
    | .error messages => failure messages

end GlyphFold.CommandLine
