import GlyphFold.Report.Format
import GlyphFold.Settings

/-!
# Command lines

The words of a command line are read from left to right. Switches stand anywhere; one that takes a
value takes the rest of its word or the next word. The first word that names a command hands the
words behind it to the command. Reading stops early where help or the version is asked for, and where
a word does not fit.

1. `Switch`, `Given`, `Form.read`: reading by a list of switches
2. `Command`, `Arguments`: what is asked for
3. `Arguments.ofWords`: the arguments of a command line
-/

namespace GlyphFold.CommandLine

/-- Why reading stops before there are arguments. -/
inductive Stop where
  | misuse
  | help
  | version
  deriving DecidableEq, Repr

/-! ## Switches -/

inductive Takes where
  | nothing
  /-- A value of some form, perhaps more than once. -/
  | value (fits : String → Bool) (repeats : Bool)
  | stop (s : Stop)

structure Switch where
  name : String
  short : Option Char := none
  takes : Takes := .nothing

/-- What stands on a command line: the switches without a value, those with theirs, and the other
words, each in order. -/
structure Given where
  flags : List String := []
  values : List (String × String) := []
  words : List String := []
  deriving DecidableEq, Repr

namespace Given

def has (g : Given) (name : String) : Bool := g.flags.contains name

def value? (g : Given) (name : String) : Option String := g.values.lookup name

def valuesOf (g : Given) (name : String) : List String :=
  (g.values.filter (·.1 == name)).map Prod.snd

/-- Adds a switch without a value, which stands once. -/
def addFlag (g : Given) (name : String) : Except Stop Given :=
  if g.has name then .error .misuse else .ok { g with flags := g.flags ++ [name] }

/-- Adds a value, which must fit. -/
def addValue (g : Given) (s : Switch) (value : String) : Except Stop Given :=
  match s.takes with
  | .value fits repeats =>
    if fits value && (repeats || (g.value? s.name).isNone) then
      .ok { g with values := g.values ++ [(s.name, value)] }
    else .error .misuse
  | _ => .error .misuse

/-- Adds a word that is no switch, if there is a place for it. It names a file. -/
def addWord (g : Given) (places : Nat) (word : String) : Except Stop Given :=
  if g.words.length < places && word ≠ "" then .ok { g with words := g.words ++ [word] }
  else .error .misuse

/-- Adds a switch with what stands behind it in its word; the switch itself where the value is still
to come. -/
def addSwitch (g : Given) (s : Switch) (behind : Option String) :
    Except Stop (Given × Option Switch) := do
  match s.takes, behind with
  | .nothing, none => return (← g.addFlag s.name, none)
  | .stop stop, none => throw stop
  | .value .., none => return (g, some s)
  | .value .., some value => return (← g.addValue s value, none)
  | _, some _ => throw .misuse

/-- Adds a word of short switches. The first that takes a value takes the rest of the word, without
an equals sign in front. -/
def addShorts (switches : List Switch) (g : Given) : List Char → Except Stop (Given × Option Switch)
  | [] => .ok (g, none)
  | c :: cs => do
    match switches.find? (·.short == some c) with
    | none => throw .misuse
    | some s =>
      match s.takes, cs with
      | .value .., d :: ds => g.addSwitch s (some (String.ofList (if d = '=' then ds else d :: ds)))
      | _, _ =>
        let (g, waiting) ← g.addSwitch s none
        if waiting.isSome then return (g, waiting) else addShorts switches g cs

/-- Adds a long switch, with a value behind an equals sign or without. -/
def addLong (switches : List Switch) (g : Given) (word : List Char) :
    Except Stop (Given × Option Switch) :=
  let name := String.ofList (word.takeWhile (· ≠ '='))
  let behind := if word.contains '=' then
    some (String.ofList ((word.dropWhile (· ≠ '=')).drop 1)) else none
  match switches.find? (·.name == name) with
  | none => .error .misuse
  | some s => g.addSwitch s behind

end Given

/-- The switches and words that a command line, or a command in it, has places for. -/
structure Form where
  switches : List Switch
  places : Nat := 1
  commands : List String := []

/-- Reads words by a form, up to the first that names a command; the words behind that come along
with it. -/
def Form.read (f : Form) (g : Given) (waiting : Option Switch) (onlyWords : Bool) :
    List String → Except Stop (Given × Option (String × List String))
  | [] => if waiting.isSome then .error .misuse else .ok (g, none)
  | word :: rest => do
    if onlyWords then f.read (← g.addWord f.places word) none true rest
    else if waiting.isNone && f.commands.contains word then return (g, some (word, rest))
    else match word.toList, waiting with
      | ['-', '-'], none => f.read g none true rest
      | '-' :: '-' :: cs, none =>
        let (g, waiting) ← g.addLong f.switches cs
        f.read g waiting false rest
      | '-' :: c :: cs, none =>
        let (g, waiting) ← g.addShorts f.switches (c :: cs)
        f.read g waiting false rest
      | '-' :: _ :: _, some _ => throw .misuse
      | _, some s => f.read (← g.addValue s word) none false rest
      | _, none => f.read (← g.addWord f.places word) none false rest

/-! ## Arguments -/

inductive Command where
  /-- Reports the folds of a project. -/
  | scan
  /-- Shows a file with its glyphs. -/
  | render (file : String) (ansi : Bool)
  /-- Reports the folds of a file. -/
  | list (file : String) (format : ReportFormat)
  /-- Writes the table to a file, or prints it. -/
  | exportTable (output : Option String) (print : Bool)
  /-- Checks a mappings document. -/
  | importTable (file : String)
  deriving DecidableEq, Repr

structure Arguments where
  command : Command := .scan
  /-- The root of the project. -/
  path : String := "."
  format : ReportFormat := .json
  /-- The file for the report. -/
  output : Option String := none
  mappings : Option String := none
  /-- The project file to read in place of the root's own. -/
  config : Option String := none
  textMode : Bool := false
  languages : Option (List Language) := none
  ignore : List String := []
  ignoreFile : Option String := none
  includeDeps : Bool := false
  /-- Reports all files in one list. -/
  flat : Bool := false
  /-- Never colours a rendered file on its own account. -/
  noColor : Bool := false
  verbose : Bool := false
  threads : Nat := 0
  deriving DecidableEq, Repr

def formatOf? : String → Option ReportFormat
  | "json" => some .json
  | "yaml" => some .yaml
  | "summary" => some .summary
  | "ansi" => some .ansi
  | _ => none

def languagesOf? : String → Option (List Language)
  | "python" => some [.python]
  | "java-script" => some [.javascript]
  | "type-script" => some [.typescript]
  | "node" => some [.javascript, .typescript]
  | _ => none

/-- A number of 64 bits in decimal digits, with a plus sign or without. -/
def naturalOf? (s : String) : Option Nat :=
  let digits := match s.toList with
    | '+' :: ds => ds
    | ds => ds
  if digits ≠ [] && digits.all Char.isDigit then
    let n := digits.foldl (fun n d => 10 * n + (d.toNat - '0'.toNat)) 0
    if n < UInt64.size then some n else none
  else none

def isPath (s : String) : Bool := s ≠ ""

def file (name : String) (short : Option Char := none) : Switch :=
  { name, short, takes := .value isPath false }

def formatSwitch : Switch :=
  { name := "format", short := some 'f', takes := .value (formatOf? · |>.isSome) false }

/-- The switches that commands take too. -/
def sharedSwitches : List Switch :=
  [file "mappings", file "config", { name := "text-mode" }, { name := "no-color" },
   { name := "verbose", short := some 'v' },
   { name := "help", short := some 'h', takes := .stop .help }]

def commandNames : List String := ["render", "list", "export", "import", "help"]

def scanForm : Form where
  commands := commandNames
  switches := sharedSwitches ++ [formatSwitch, file "output" (some 'o'),
   { name := "language", takes := .value (languagesOf? · |>.isSome) false },
   { name := "ignore", takes := .value (fun _ => true) true },
   file "ignore-file", { name := "include-deps" }, { name := "flat" },
   { name := "threads", takes := .value (naturalOf? · |>.isSome) false },
   { name := "version", short := some 'V', takes := .stop .version }]

def formOf (command : String) : Form where
  places := if command = "export" then 0 else 1
  switches := sharedSwitches ++ match command with
    | "render" => [{ name := "ansi" }]
    | "list" => [formatSwitch]
    | "export" => [file "output" (some 'o'), { name := "stdout" }]
    | _ => []

def formatIn (g : Given) : ReportFormat := ((g.value? "format").bind formatOf?).getD .json

/-- The command of a name, with what is given for it. -/
def Command.ofGiven (name : String) (g : Given) : Except Stop Command :=
  match name, g.words with
  | "render", [file] => .ok (.render file (g.has "ansi"))
  | "list", [file] => .ok (.list file (formatIn g))
  | "export", [] =>
    if g.has "stdout" && (g.value? "output").isSome then .error .misuse
    else .ok (.exportTable (g.value? "output") (g.has "stdout"))
  | "import", [file] => .ok (.importTable file)
  | _, _ => .error .misuse

/-- The arguments given in front of a command, and for the command. A shared switch counts in both
places, and the command's own value wins. -/
def Arguments.ofGiven (command : Command) (g own : Given) : Arguments where
  command := command
  path := g.words.headD "."
  format := formatIn g
  output := g.value? "output"
  mappings := own.value? "mappings" <|> g.value? "mappings"
  config := own.value? "config" <|> g.value? "config"
  textMode := g.has "text-mode" || own.has "text-mode"
  languages := (g.value? "language").bind languagesOf?
  ignore := g.valuesOf "ignore"
  ignoreFile := g.value? "ignore-file"
  includeDeps := g.has "include-deps"
  flat := g.has "flat"
  noColor := g.has "no-color" || own.has "no-color"
  verbose := g.has "verbose" || own.has "verbose"
  threads := ((g.value? "threads").bind naturalOf?).getD 0

/-- The arguments of a command line. -/
def Arguments.ofWords (words : List String) : Except Stop Arguments := do
  match ← scanForm.read {} none false words with
  | (g, none) => return .ofGiven .scan g {}
  | (_, some ("help", topics)) =>
    throw (if topics.all commandNames.contains then .help else .misuse)
  | (g, some (name, rest)) =>
    let (own, _) ← (formOf name).read {} none false rest
    return .ofGiven (← Command.ofGiven name own) g own

/-- The settings that the arguments ask for. -/
def Arguments.settings (a : Arguments) : Settings where
  root := a.path
  languages := a.languages
  ignorePatterns := a.ignore
  ignoreFile := a.ignoreFile
  includeDeps := a.includeDeps
  threads := a.threads
  mappingsFile := a.mappings
  textMode := a.textMode

end GlyphFold.CommandLine
