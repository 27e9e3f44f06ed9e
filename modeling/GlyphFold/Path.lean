/-!
# Paths

A path is a text whose components stand between slashes. Empty components and those of one dot say
nothing, unless a path starts with the dot.

1. `components`: what a path goes through
2. `join`, `parent?`, `stripRoot?`: paths from paths
3. `fileName?`, `extension?`: the last component
-/

namespace GlyphFold.Path

/-- The texts between the slashes. -/
def pieces : List Char → List (List Char)
  | [] => [[]]
  | c :: cs =>
    match pieces cs with
    | [] => [[c]]
    | p :: ps => if c = '/' then [] :: p :: ps else (c :: p) :: ps

def isIdle (piece : List Char) : Bool := piece = [] || piece = ['.']

def isAbsolute (path : String) : Bool := path.toList.head? = some '/'

/-- The pieces between slashes, with a slash between neighbours. -/
def ofPieces (ps : List (List Char)) : String := String.ofList (List.intercalate ['/'] ps)

/-- Where a path starts: at the root, at a dot, or with a name. -/
def lead (path : String) : List String :=
  if isAbsolute path then ["/"]
  else if (pieces path.toList).head? = some ['.'] then ["."] else []

def names (path : String) : List String :=
  ((pieces path.toList).filter (!isIdle ·)).map String.ofList

/-- What a path goes through. -/
def components (path : String) : List String := lead path ++ names path

/-- The names on the way that a path takes, where `..` takes one back. -/
def place (path : String) : List String :=
  ((names path).foldl (fun way name => if name = ".." then way.drop 1 else name :: way) []).reverse

/-! ## Joining and parting -/

/-- A path seen from a directory. An absolute path stays as it is. -/
def join (base path : String) : String :=
  if isAbsolute path then path
  else if base.toList.getLast?.all (· = '/') then base ++ path
  else base ++ "/" ++ path

/-- The path without its last component. -/
def parent? (path : String) : Option String :=
  let ps := (pieces path.toList).reverse.dropWhile isIdle
  match ps with
  | _ :: rest =>
    let kept := (rest.dropWhile isIdle).reverse
    if kept = [] then
      some (if isAbsolute path then "/" else if rest.getLast? = some ['.'] then "." else "")
    else some (ofPieces kept)
  | [] => if path = "" || isAbsolute path then none else some ""

/-- Passes the given names at the start of some pieces. -/
def dropNames : List String → List (List Char) → Option (List (List Char))
  | [], ps => some (ps.dropWhile isIdle)
  | _ :: _, [] => none
  | name :: rest, p :: ps =>
    if isIdle p then dropNames (name :: rest) ps
    else if name.toList = p then dropNames rest ps
    else none

/-- What is left of a path below a root that it starts with. -/
def stripRoot? (root path : String) : Option String :=
  let ps := ((pieces path.toList).reverse.dropWhile isIdle).reverse
  if components root = [] then some (ofPieces ps)
  else if lead root = lead path then (dropNames (names root) ps).map ofPieces
  else none

/-! ## The last component -/

/-- The last component, unless it is one that only leads elsewhere. -/
def fileName? (path : String) : Option String :=
  match (components path).getLast? with
  | some name => if name = "/" || name = "." || name = ".." then none else some name
  | none => none

/-- What stands behind the last dot of a file name. A dot at its start does not count. -/
def extension? (path : String) : Option String := do
  let name := (← fileName? path).toList
  let behind := name.reverse.takeWhile (· ≠ '.')
  if behind.length + 1 < name.length then some (String.ofList behind.reverse) else none

end GlyphFold.Path
