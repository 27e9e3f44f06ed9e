import GlyphFold.Ignore.Filter

/-!
# The source files of a project

A walk goes through a directory and everything below it, except for the directories that the filter
leaves out, and keeps the files of the languages asked for that the filter does not leave out. The
root itself is not asked about.

1. `FoundFile`: a file with its place below the root
2. `walk`: the files below a path, in the order of the directory entries
3. `sourceFiles`: the files of a project, by their places
-/

namespace GlyphFold

structure FoundFile where
  /-- The names on the way from the root. -/
  place : List String
  /-- The path of the root with the names behind it. -/
  path : String
  language : Language
  bytes : ByteArray

namespace Scan

/-- The file at a path, if a scan takes it in. -/
def visit (s : Settings) (f : Ignore.Filter) (place : List String) (path : String)
    (bytes : ByteArray) : List FoundFile :=
  if f.ignores path false || !s.admits path then []
  else match Language.ofPath? path with
    | some language => [⟨place, path, language, bytes⟩]
    | none => []

mutual

/-- The source files at and below a path. -/
def walk (s : Settings) (f : Ignore.Filter) (place : List String) (path : String) :
    FileTree → List FoundFile
  | .file bytes => visit s f place path bytes
  | .directory entries => walkEntries s f place path entries

/-- The source files of the entries of a directory. -/
def walkEntries (s : Settings) (f : Ignore.Filter) (place : List String) (path : String) :
    List (String × FileTree) → List FoundFile
  | [] => []
  | (name, t) :: rest =>
    let below := Path.join path name
    (if t.isDirectory && f.ignores below true then [] else walk s f (place ++ [name]) below t) ++
      walkEntries s f place path rest

end

/-- The source files of a project, in the order of their places. -/
def sourceFiles (fs : FileSystem) (s : Settings) (f : Ignore.Filter) : List FoundFile :=
  match fs.node? s.root with
  | .ok t => (walk s f [] s.root t).mergeSort fun a b => !b.place.lex a.place
  | .error _ => []

end Scan

end GlyphFold
