import GlyphFold.Region

/-!
# Located folds

A fold is a region together with the text it covers and where that text stands: lines from 1,
columns in characters from 0.

Two notions of a line are in use. A file's line count knows the line feed only (`Text.lineCount`). A
position is found among all Unicode line breaks (`Text.position`): LF, CR, CR LF as one, VT, FF, NEL
and the line and paragraph separators.
-/

namespace GlyphFold

/-! ## Lines and columns -/

namespace Text

/-- The number of lines, each ended by a line feed or by the end of the text. -/
def lineCount (cs : List Char) : Nat :=
  cs.count '\n' + (if cs.getLast?.all (· = '\n') then 0 else 1)

/-- The characters that break a line, whatever follows them. -/
def isLineBreak (c : Char) : Bool :=
  c = '\n' || c = '\x0b' || c = '\x0c' || c = '\r' || c = '\u0085' || c = '\u2028' || c = '\u2029'

/-- A place in a text: lines and columns passed, both counted from 0. -/
structure Position where
  line : Nat
  column : Nat
  deriving DecidableEq, Repr

/-- The place behind a character, which `next` follows. CR before LF is not yet the end of a line. -/
def Position.after (p : Position) (c : Char) (next : Option Char) : Position :=
  if isLineBreak c && !(c = '\r' && next = some '\n') then ⟨p.line + 1, 0⟩
  else ⟨p.line, p.column + 1⟩

/-- The place of an offset in a text whose start is at `p`: that of the character which the offset
falls in, or of the end. -/
def positionFrom (p : Position) : List Char → Nat → Position
  | [], _ => p
  | c :: cs, offset =>
    if c.utf8Size ≤ offset then positionFrom (p.after c cs.head?) cs (offset - c.utf8Size) else p

def position (cs : List Char) (offset : Nat) : Position := positionFrom ⟨0, 0⟩ cs offset

end Text

/-! ## Folds -/

structure Fold where
  region : Region
  original : String
  line : Nat
  column : Nat
  deriving DecidableEq, Repr

/-- A region located in its text. A start past the end counts as the end; a range that is no range
of the text covers nothing. -/
def Fold.locate (content : List Char) (r : Region) : Fold :=
  let place := Text.position content r.start
  { region := r
    original := String.ofList ((Text.slice? content r.start r.stop).getD [])
    line := place.line + 1
    column := place.column }

def locateFolds (content : String) (regions : List Region) : List Fold :=
  regions.map (Fold.locate content.toList)

theorem map_region_locateFolds (content : String) (regions : List Region) :
    (locateFolds content regions).map Fold.region = regions := by
  unfold locateFolds
  rw [List.map_map]
  exact List.map_id regions

end GlyphFold
