import GlyphFold.Language
import GlyphFold.Path

/-!
# Settings of a scan

What to scan and how: `Settings` from the command line or a host, `ProjectFile` from the file that a
project keeps in its root. Merging layers the file under the settings.

1. `Settings`, `ProjectFile`
2. `languagesOf`, `Settings.merge`: the project file underneath
3. `Language.ofPath?`, `Settings.admits`: the files whose language is asked for
-/

namespace GlyphFold

structure Settings where
  /-- The directory to scan. -/
  root : String := "."
  /-- The languages to scan; nothing admits all. -/
  languages : Option (List Language) := none
  ignorePatterns : List String := []
  /-- The ignore file to read in place of the root's own. -/
  ignoreFile : Option String := none
  /-- Scans the directories of dependencies and build results too. -/
  includeDeps : Bool := false
  /-- The threads to use; 0 leaves the choice open. -/
  threads : Nat := 0
  /-- The mappings document to read in place of the built-in table. -/
  mappingsFile : Option String := none
  /-- Scans flat text, not syntax trees. -/
  textMode : Bool := false
  deriving DecidableEq, Repr

structure ProjectFile where
  mappings : Option String := none
  languages : List String := []
  ignore : List String := []
  threads : Option Nat := none
  textMode : Bool := false
  includeDeps : Bool := false
  deriving DecidableEq, Repr

/-! ## Merging -/

/-- A name in a project file that is no language. -/
structure UnknownLanguage where
  name : String
  deriving DecidableEq, Repr

def UnknownLanguage.message (e : UnknownLanguage) : String :=
  "Unknown language in config: " ++ e.name

/-- The languages of some names, or the first name that is none. -/
def languagesOf : List String → Except UnknownLanguage (List Language)
  | [] => .ok []
  | name :: rest =>
    match Language.ofName? name with
    | some l => (languagesOf rest).map (l :: ·)
    | none => .error ⟨name⟩

/-- The languages to scan, those of the project file if the settings leave them open. -/
def Settings.mergeLanguages (s : Settings) (file : ProjectFile) :
    Except UnknownLanguage (Option (List Language)) :=
  match s.languages, file.languages with
  | some languages, _ => .ok (some languages)
  | none, [] => .ok none
  | none, names => (languagesOf names).map some

/-- Layers a project file under the settings: it fills what they leave open, and adds ignore patterns
and flags. Its paths lead from the directory `base`. -/
def Settings.merge (s : Settings) (file : ProjectFile) (base : String) :
    Except UnknownLanguage Settings := do
  let languages ← s.mergeLanguages file
  return { s with
    languages
    mappingsFile := s.mappingsFile <|> file.mappings.map (Path.join base)
    ignorePatterns := s.ignorePatterns ++ file.ignore
    threads := if s.threads = 0 then file.threads.getD 0 else s.threads
    textMode := s.textMode || file.textMode
    includeDeps := s.includeDeps || file.includeDeps }

/-! ## Languages of files -/

/-- The language of a file, by the extension of its path. -/
def Language.ofPath? (path : String) : Option Language := do
  ofExtension? (← Path.extension? path)

/-- The language of the file is known, and it is asked for. -/
def Settings.admits (s : Settings) (path : String) : Bool :=
  match Language.ofPath? path, s.languages with
  | none, _ => false
  | some _, none => true
  | some l, some languages => languages.contains l

end GlyphFold
