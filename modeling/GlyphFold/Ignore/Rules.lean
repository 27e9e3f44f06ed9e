import GlyphFold.Glob
import GlyphFold.Path
import GlyphFold.Text.CodePoints

/-!
# Ignore files

The rules of an ignore file, a glob a line. The last rule that matches a path decides: it ignores
the path or, marked by `!`, keeps it.

1. `Rule.ofLine`: the rule of a line
2. `linesOf`: the lines of a file
3. `Rules.verdict`: what the rules say of a path
-/

namespace GlyphFold.Ignore

structure Rule where
  pattern : Glob.Pattern
  /-- A path that matches is not ignored. -/
  keeps : Bool
  directoriesOnly : Bool

/-- The rules of an ignore file, which lies in the directory `root`. -/
structure Rules where
  root : String
  rules : List Rule

/-! ## Lines -/

/-- A line without the blanks at its end, unless the last of them is escaped. -/
def trimLine (line : List Char) : List Char :=
  if ['\\', ' '].isSuffixOf line then line else Text.trimRight line

/-- The glob over paths below the root that the text of a rule stands for: without a slash it
matches at any depth, and what it says of a whole directory it says of what lies in the directory. -/
def globOf (anchored : Bool) (text : List Char) : List Char :=
  let anywhere := !anchored && !text.contains '/' && text != ['*', '*']
  let glob := if anywhere then "**/".toList ++ text else text
  if "/**".toList.isSuffixOf glob then glob ++ "/*".toList else glob

/-- The marks in front of a rule: whether it keeps, whether it holds for paths from the root only,
and its text behind them. A backslash takes the meaning from a mark. -/
def marks (line : List Char) : Bool × Bool × List Char :=
  match line with
  | '\\' :: '!' :: rest => (false, false, '!' :: rest)
  | '\\' :: '#' :: rest => (false, false, '#' :: rest)
  | '!' :: '/' :: rest => (true, true, rest)
  | '!' :: rest => (true, false, rest)
  | '/' :: rest => (false, true, rest)
  | _ => (false, false, line)

/-- The text of a rule without the slash at its end, which says that it holds for directories. -/
def dropSlash (text : List Char) : List Char × Bool :=
  if text.getLast? = some '/' then
    let rest := text.dropLast
    (if rest.getLast? = some '\\' then rest.dropLast else rest, true)
  else (text, false)

/-- The rule of a line; comments, empty lines and lines that hold no glob have none. -/
def Rule.ofLine (line : List Char) : Option Rule :=
  let text := trimLine line
  if text.head? = some '#' || text = [] then none
  else
    let (keeps, anchored, text) := marks text
    let (text, directoriesOnly) := dropSlash text
    match Glob.ofText .ignoreLine (String.ofList (globOf anchored text)) with
    | .ok pattern => some ⟨pattern, keeps, directoriesOnly⟩
    | .error _ => none

/-! ## Files -/

def newline : UInt8 := 10
def carriageReturn : UInt8 := 13

/-- The lines of a file, without their ends. -/
def linesOf : List UInt8 → List (List UInt8)
  | [] => [[]]
  | b :: bs =>
    match linesOf bs with
    | [] => [[b]]
    | line :: rest =>
      if b = newline then [] :: line :: rest
      else if b = carriageReturn && line = [] && rest ≠ [] then [] :: rest
      else (b :: line) :: rest

/-- The texts of the lines up to the first that is none. -/
def textsOf (lines : List (List UInt8)) : List String :=
  ((lines.map Text.decode?).takeWhile Option.isSome).filterMap id

def byteOrderMark : Char := '\ufeff'

/-- The rules of an ignore file's bytes. -/
def Rules.ofBytes (root : String) (bytes : List UInt8) : Rules :=
  let lines := (textsOf (linesOf bytes)).map String.toList
  let lines := match lines with
    | first :: rest => first.dropWhile (· = byteOrderMark) :: rest
    | [] => []
  ⟨root, lines.filterMap Rule.ofLine⟩

/-! ## Paths -/

/-- The text behind a given one at its start. -/
def behind? (start path : List Char) : Option (List Char) :=
  if start.isPrefixOf path then some (path.drop start.length) else none

/-- A path as the rules see it: without `./`, and without the root if it starts with its text. A
root that is the working directory is not taken off, nor is any root from a bare file name. -/
def Rules.localPath (r : Rules) (path : String) : List Char :=
  let here (p : List Char) := (behind? ['.', '/'] p).getD p
  let root := here r.root.toList
  let path := here path.toList
  if Path.components (String.ofList root) = ["."] || !path.contains '/' then path
  else match behind? root path with
    | some rest => (behind? ['/'] rest).getD rest
    | none => path

/-- What the rules say of a path: whether to ignore it, if they say anything. -/
def Rules.verdict? (r : Rules) (path : String) (isDirectory : Bool) : Option Bool :=
  let bytes := Text.utf8 (r.localPath path)
  let applies (rule : Rule) :=
    (isDirectory || !rule.directoriesOnly) && rule.pattern.admits bytes
  (r.rules.reverse.find? applies).map (!·.keeps)

end GlyphFold.Ignore
