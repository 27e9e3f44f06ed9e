import GlyphFold.CommandLine.Run
import Std.Time.DateTime.Timestamp

/-!
# The program

Looks at the working directory and at the absolute paths among the words of the command line, runs
the command line on them, prints and writes what comes of it.
-/

namespace GlyphFold.Program

/-- How deep directories are looked into. -/
def depthLimit : Nat := 256

/-- The tree of a directory entry. What cannot be read counts as an empty directory. -/
def treeOf : (depth : Nat) → IO.FS.DirEntry → IO FileTree
  | 0, _ => pure .empty
  | depth + 1, entry => do
    try
      if ← entry.path.isDir then
        let entries ← entry.path.readDir
        return .directory (← entries.toList.mapM fun e => do return (e.fileName, ← treeOf depth e))
      else return .file (← IO.FS.readBinFile entry.path)
    catch _ => return .empty

/-- The absolute paths among some words that lead somewhere. -/
def rootTree (words : List String) : IO FileTree := do
  let here ← IO.currentDir
  words.foldlM (fun t (word : String) => do
    if Path.isAbsolute word && (← (here / word).pathExists) then
      return t.insert (Path.names word) (← treeOf depthLimit { root := here, fileName := word })
    else return t) .empty

def now : IO Instant := do
  let t ← Std.Time.Timestamp.now
  return ⟨t.val.second.val, t.val.nano.val.toNat⟩

/-- Runs a command line in the working directory and gives its exit code. -/
def perform (words : List String) : IO UInt32 := do
  let date := DateTime.ofInstant (← now)
  let working ← treeOf depthLimit { root := ← IO.currentDir, fileName := "." }
  let outcome := CommandLine.run words
    { files := { working, root := ← rootTree words }
      date := date.text
      stamp := date.stamp
      terminal := ← (← IO.getStdout).isTty }
  IO.print outcome.output
  if let some (path, text) := outcome.written then IO.FS.writeFile path text
  IO.eprint outcome.errors
  return outcome.code.toUInt32

end GlyphFold.Program

def main (words : List String) : IO UInt32 := GlyphFold.Program.perform words
