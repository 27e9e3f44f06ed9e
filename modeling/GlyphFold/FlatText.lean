import GlyphFold.Text.Bytes
import GlyphFold.Table
import GlyphFold.Text.WordForming

/-!
# Matching in flat text

Without a tree, the sources of unconditional mappings are looked for in the text itself. They are the
alternatives of one pattern, longest first, each with a word boundary at an end that is word-like.
The text is searched from left to right: at each place the first alternative that matches wins, and
the search goes on behind its match.

1. `rest?`, `atomsOf`: what an alternative matches, and the alternative of a source
2. `Pattern.ofTable`: the pattern of a table
3. `Engine`: what builds patterns, and which tables it refuses
4. `Pattern.matchesIn`: what the search finds
-/

namespace GlyphFold

/-- A part of an alternative: one character, or a word boundary, which takes no text. -/
inductive Atom where
  | boundary
  | char (c : Char)
  deriving DecidableEq, Repr

structure Pattern where
  alternatives : List (List Atom)
  deriving DecidableEq, Repr

/-- A stretch of the text that a pattern matched. -/
structure Match where
  range : Span
  text : String
  deriving DecidableEq, Repr

namespace Pattern

/-! ## Alternatives -/

/-- What is left of a text behind a match at its start; `previous` is the character before it. -/
def rest? : List Atom → (previous : Option Char) → List Char → Option (List Char)
  | [], _, cs => some cs
  | .boundary :: atoms, previous, cs =>
    if Text.wordBoundary previous cs.head? then rest? atoms previous cs else none
  | .char _ :: _, _, [] => none
  | .char c :: atoms, _, d :: cs => if c = d then rest? atoms (some c) cs else none

/-- The word boundary at an end of a source; none at an end that is not word-like. -/
def fence (c : Option Char) : List Atom := if c.any Text.isWordLike then [.boundary] else []

/-- The alternative of a source. -/
def atomsOf (source : String) : List Atom :=
  let cs := source.toList
  fence cs.head? ++ cs.map .char ++ fence cs.getLast?

/-! ## Patterns -/

def ofSources (sources : List String) : Pattern := ⟨sources.map atomsOf⟩

/-- Longer sources come first; those of one length in order of their characters. -/
def before (a b : String) : Bool :=
  let m := Text.byteSize a.toList
  let n := Text.byteSize b.toList
  n < m || (m == n && a ≤ b)

/-- The sources of a table's unconditional mappings. -/
def unconditional (t : Table) : List String :=
  (t.all.filter (·.condition = .always)).map Mapping.source

def ofTable (t : Table) : Pattern := ofSources ((unconditional t).mergeSort before)

end Pattern

/-! ## Engines -/

/-- What builds the search for a pattern. It may refuse one, as for its size. -/
structure Engine where
  /-- Why the search for a pattern cannot be built, if it cannot. -/
  refusal? : Pattern → Option String

namespace Engine

/-- Builds every search. -/
def willing : Engine := ⟨fun _ => none⟩

/-- Why there is no search for a table, if there is none. A table without unconditional mappings
asks for none. -/
def fault? (engine : Engine) (t : Table) : Option String :=
  if Pattern.unconditional t = [] then none else engine.refusal? (.ofTable t)

@[simp] theorem fault?_willing (t : Table) : willing.fault? t = none := ite_self _

end Engine

namespace Pattern

/-! ## The search -/

/-- What is left behind the match of the first alternative that matches at the start of a text. -/
def firstRest? (p : Pattern) (previous : Option Char) (cs : List Char) : Option (List Char) :=
  p.alternatives.findSome? (rest? · previous cs)

/-- The matches in the text that starts at `offset` behind `previous`, of which the first `skip`
characters belong to a match already made. -/
def matchesFrom (p : Pattern) :
    (previous : Option Char) → (offset skip : Nat) → List Char → List Match
  | _, _, _, [] => []
  | _, offset, skip + 1, c :: cs => p.matchesFrom (some c) (offset + c.utf8Size) skip cs
  | previous, offset, 0, c :: cs =>
    match p.firstRest? previous (c :: cs) with
    | some rest =>
      let text := (c :: cs).take ((c :: cs).length - rest.length)
      ⟨⟨offset, offset + Text.byteSize text⟩, String.ofList text⟩ ::
        p.matchesFrom (some c) (offset + c.utf8Size) (text.length - 1) cs
    | none => p.matchesFrom (some c) (offset + c.utf8Size) 0 cs

def matchesIn (p : Pattern) (text : String) : List Match := p.matchesFrom none 0 0 text.toList

end Pattern

end GlyphFold
