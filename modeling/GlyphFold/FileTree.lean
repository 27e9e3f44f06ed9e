import GlyphFold.Path
import GlyphFold.Text.Bytes

/-!
# File trees

Directories with named entries, and files. A file system is what a run sees of them: the tree of the
working directory, and what absolute paths lead through.

1. `FileError`: why a path cannot be read or written
2. `FileTree.follow`, `FileTree.insert`: going along a path, adding an entry
3. `FileSystem.node?`, `FileSystem.readText`: what a path leads to
4. `FileSystem.checkWrite`: whether a file can be written
-/

namespace GlyphFold

inductive FileTree where
  | file (bytes : ByteArray)
  | directory (entries : List (String × FileTree))

inductive FileError where
  | notFound
  | notDirectory
  | isDirectory
  | denied
  | notText
  deriving DecidableEq, Repr

def FileError.message : FileError → String
  | notFound => "No such file or directory (os error 2)"
  | notDirectory => "Not a directory (os error 20)"
  | isDirectory => "Is a directory (os error 21)"
  | denied => "Permission denied (os error 13)"
  | notText => "stream did not contain valid UTF-8"

namespace FileTree

def empty : FileTree := directory []

def isDirectory : FileTree → Bool
  | directory _ => true
  | file _ => false

/-- The entry of a name in a directory. -/
def entry? (t : FileTree) (name : String) : Except FileError FileTree :=
  match t with
  | file _ => .error .notDirectory
  | directory entries =>
    match entries.lookup name with
    | some t => .ok t
    | none => .error .notFound

/-- Follows the pieces of a path; `above` are the directories gone through, innermost first. -/
def follow (above : List FileTree) (t : FileTree) : List (List Char) → Except FileError FileTree
  | [] => .ok t
  | p :: ps =>
    if Path.isIdle p then
      if t.isDirectory then follow above t ps else .error .notDirectory
    else if p = ['.', '.'] then
      if t.isDirectory then
        match above with
        | [] => .error .notFound
        | parent :: rest => follow rest parent ps
      else .error .notDirectory
    else do follow (t :: above) (← t.entry? (String.ofList p)) ps

/-- Sets the entry of a name. -/
def setEntry (name : String) (t : FileTree) :
    List (String × FileTree) → List (String × FileTree)
  | [] => [(name, t)]
  | (n, old) :: rest => if n = name then (name, t) :: rest else (n, old) :: setEntry name t rest

/-- Puts a tree at a place below another, with the directories on the way. -/
def insert (t : FileTree) (place : List String) (new : FileTree) : FileTree :=
  match place with
  | [] => new
  | name :: rest =>
    let entries := match t with
      | directory entries => entries
      | file _ => []
    directory (setEntry name (((entries.lookup name).getD empty).insert rest new) entries)

end FileTree

structure FileSystem where
  /-- The working directory. -/
  working : FileTree
  /-- Where absolute paths start. -/
  root : FileTree := .empty

namespace FileSystem

/-! ## Reading -/

/-- Where a path starts. -/
def start (fs : FileSystem) (path : String) : FileTree :=
  if Path.isAbsolute path then fs.root else fs.working

/-- What a path leads to. -/
def node? (fs : FileSystem) (path : String) : Except FileError FileTree :=
  if path = "" then .error .notFound else (fs.start path).follow [] (Path.pieces path.toList)

def isFile (fs : FileSystem) (path : String) : Bool :=
  match fs.node? path with
  | .ok (.file _) => true
  | _ => false

/-- The bytes of a file. -/
def read (fs : FileSystem) (path : String) : Except FileError ByteArray := do
  match ← fs.node? path with
  | .file bytes => return bytes
  | .directory _ => .error .isDirectory

/-- The text of some bytes, which must be UTF-8. -/
def textOf (bytes : ByteArray) : Except FileError String :=
  match String.fromUTF8? bytes with
  | some text => .ok text
  | none => .error .notText

def readText (fs : FileSystem) (path : String) : Except FileError String := do
  textOf (← fs.read path)

/-! ## Writing -/

/-- A file can be written where there is one, and in a directory where there is nothing. -/
def checkWrite (fs : FileSystem) (path : String) : Except FileError Unit :=
  match fs.node? path with
  | .ok (.file _) => .ok ()
  | .ok (.directory _) => .error .isDirectory
  | .error .notFound =>
    let ps := (Path.pieces path.toList).reverse
    match ps.dropWhile (· = []) with
    | name :: above => do
      let parent ← (fs.start path).follow [] above.reverse
      if name = ['.'] || name = ['.', '.'] then .error .notFound
      else if !parent.isDirectory then .error .notDirectory
      else if ps.head? = some [] then .error .isDirectory
    | [] => .error .notFound
  | .error e => .error e

end FileSystem

end GlyphFold
