import GlyphFold.FileTree
import GlyphFold.Settings
import GlyphFold.Toml.Reader

/-!
# Project files

A project file is a TOML text. It sets what it names; a setting of the wrong type is refused, and
names that are no settings say nothing. It is given by its path, or it lies in the root of the project
under the name `prettyfold.toml`.

1. `ProjectFile.ofText?`: the project file of a text
2. `ProjectFile.load`, `ProjectFile.discover`: the project file at a path, and that of a root
3. `Settings.discover`: settings over the project file of their root
-/

namespace GlyphFold

namespace Toml.Value

def string? : Value → Option String
  | string text => some text
  | _ => none

def boolean? : Value → Option Bool
  | boolean b => some b
  | _ => none

def natural? : Value → Option Nat
  | integer (.ofNat n) => some n
  | _ => none

def strings? : Value → Option (List String)
  | list items => items.mapM string?
  | _ => none

end Toml.Value

namespace ProjectFile

/-- The setting of a name, or the default if the file does not name it. -/
def setting {α : Type} (t : Toml.Entries) (name : String) (default : α)
    (read : Toml.Value → Option α) : Option α :=
  match t.lookup name with
  | some v => read v
  | none => some default

def ofEntries (t : Toml.Entries) : Option ProjectFile := do
  return {
    mappings := ← setting t "mappings" none fun v => v.string?.map some
    languages := ← setting t "languages" [] Toml.Value.strings?
    ignore := ← setting t "ignore" [] Toml.Value.strings?
    threads := ← setting t "threads" none fun v => v.natural?.map some
    textMode := ← setting t "text_mode" false Toml.Value.boolean?
    includeDeps := ← setting t "include_deps" false Toml.Value.boolean? }

/-- The project file of a text; nothing if the text is no TOML or a setting is of the wrong type. -/
def ofText? (text : String) : Option ProjectFile := do ofEntries (← Toml.ofText? text)

end ProjectFile

/-! ## Finding project files -/

/-- Why a project file cannot be used. -/
inductive ProjectFault where
  | file (e : FileError)
  | toml
  | language (e : UnknownLanguage)

/-- The messages of a fault, each the cause of the one before. -/
def ProjectFault.messages : ProjectFault → List String
  | file e => ["IO error: " ++ e.message, e.message]
  | toml => ["Invalid config file: TOML parse error", "TOML parse error"]
  | language e => [e.message]

namespace ProjectFile

def fileName : String := "prettyfold.toml"

def load (fs : FileSystem) (path : String) : Except ProjectFault ProjectFile := do
  match ofText? (← (fs.readText path).mapError .file) with
  | some file => return file
  | none => .error .toml

/-- The project file of a root, if there is one. -/
def discover (fs : FileSystem) (root : String) : Except ProjectFault (Option ProjectFile) :=
  let path := Path.join root fileName
  if fs.isFile path then (load fs path).map some else .ok none

end ProjectFile

/-- Layers the project file of the root under the settings. -/
def Settings.discover (s : Settings) (fs : FileSystem) : Except ProjectFault Settings := do
  match ← ProjectFile.discover fs s.root with
  | some file => (s.merge file s.root).mapError .language
  | none => return s

end GlyphFold
