import GlyphFold.FileTree
import GlyphFold.Ignore.Rules
import GlyphFold.Settings

/-!
# What a scan leaves out

A path is left out if one of the built-in globs or of the user's globs matches the whole of it, or
if the rules of the ignore file say so.

1. `builtinGlobs`: the directories of dependencies and build results
2. `Filter.new`: the filter of some settings
3. `Filter.ignores`
-/

namespace GlyphFold.Ignore

/-- Directories of dependencies and build results, and minified scripts. -/
def builtinGlobs : List String :=
  ["**/node_modules/**", "**/.venv/**", "**/venv/**", "**/__pycache__/**", "**/dist/**",
   "**/build/**", "**/.git/**", "**/*.min.js"]

/-- A glob that cannot be read. -/
structure BadGlob where
  glob : String
  fault : Glob.Fault
  deriving DecidableEq, Repr

def BadGlob.cause (e : BadGlob) : String :=
  "error parsing glob '" ++ e.glob ++ "': " ++ e.fault.message

def BadGlob.message (e : BadGlob) : String := "Failed to build glob pattern: " ++ e.cause

structure Filter where
  globs : List Glob.Pattern
  rules : Rules

def readGlob (glob : String) : Except BadGlob Glob.Pattern :=
  (Glob.ofText .path glob).mapError fun fault => ⟨glob, fault⟩

/-- The rules of the ignore file. One that cannot be read has no rules. -/
def rulesOf (fs : FileSystem) (s : Settings) : Rules :=
  match fs.read (s.ignoreFile.getD (Path.join s.root ".gitignore")) with
  | .ok bytes => .ofBytes s.root bytes.data.toList
  | .error _ => ⟨s.root, []⟩

namespace Filter

/-- The filter of some settings, or the first of the user's globs that cannot be read. -/
def new (fs : FileSystem) (s : Settings) : Except BadGlob Filter := do
  let custom ← s.ignorePatterns.mapM readGlob
  let builtin ← (if s.includeDeps then [] else builtinGlobs).mapM readGlob
  return ⟨builtin ++ custom, rulesOf fs s⟩

/-- A scan leaves the path out. -/
def ignores (f : Filter) (path : String) (isDirectory : Bool) : Bool :=
  let bytes := Text.utf8 path.toList
  f.globs.any (·.admits bytes) || (f.rules.verdict? path isDirectory).getD false

end Filter

end GlyphFold.Ignore
