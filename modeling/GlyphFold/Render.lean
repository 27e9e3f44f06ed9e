import GlyphFold.Region
import GlyphFold.Table
import GlyphFold.Text.Bytes

/-!
# Rendering

A source is shown with its regions replaced. The regions are taken by start offset, equal ones in the
order given; one that starts before the end of the last applied one, leaves the source or splits a
character is passed over. What stays is copied by character indices, which can be out of bounds.

1. `Rendering.step?`, `renderWith?`: one region, and a whole source
2. `renderWith?_isSome`: no index is out of bounds
3. `renderCounted`: plain and coloured text, with the number of glyphs
-/

namespace GlyphFold

open Text (byteSize charIndex? charSlice?)

/-! ## The pass over the regions -/

/-- A rendering under way. -/
structure Rendering where
  output : String := ""
  /-- The end of the last applied region. -/
  position : Nat := 0
  applied : Nat := 0
  deriving DecidableEq, Repr

namespace Rendering

/-- The source up to the start of a region. -/
def gap? (cs : List Char) (st : Rendering) (r : Region) : Option (List Char) :=
  if st.position < r.start then do
    let i ← charIndex? cs st.position
    let j ← charIndex? cs r.start
    charSlice? cs i j
  else some []

/-- The source behind the last applied region. -/
def rest? (cs : List Char) (st : Rendering) : Option (List Char) :=
  if st.position < byteSize cs then do
    let i ← charIndex? cs st.position
    charSlice? cs i cs.length
  else some []

/-- Applies a region, or passes it over; `shown` is what replaces a text. -/
def step? (shown : Region → String → String) (cs : List Char) (st : Rendering) (r : Region) :
    Option Rendering :=
  if r.start < st.position ∨ byteSize cs < r.stop then some st
  else
    match Text.slice? cs r.start r.stop with
    | none => some st
    | some own => (st.gap? cs r).map fun gap =>
      { output := st.output ++ String.ofList gap ++ shown r (String.ofList own)
        position := r.stop
        applied := st.applied + 1 }

/-- The output with the rest of the source, and the number of applied regions. -/
def finish? (cs : List Char) (st : Rendering) : Option (String × Nat) :=
  (st.rest? cs).map fun rest => (st.output ++ String.ofList rest, st.applied)

end Rendering

def byStart (regions : List Region) : List Region := regions.mergeSort (·.start ≤ ·.start)

/-- The source with its regions replaced, and how many were. -/
def renderWith? (shown : Region → String → String) (source : String) (regions : List Region) :
    Option (String × Nat) :=
  if regions.isEmpty then some (source, 0)
  else do
    let st ← (byStart regions).foldlM (Rendering.step? shown source.toList) {}
    st.finish? source.toList

/-! ## Rendering succeeds -/

namespace Rendering

variable {cs : List Char} {st : Rendering} (h : st.position ≤ byteSize cs)

include h

theorem gap?_isSome {r : Region} (hr : r.start ≤ byteSize cs) : (st.gap? cs r).isSome := by
  unfold gap?
  split
  · next hlt =>
    rw [Text.charIndex?_of_le h, Text.charIndex?_of_le hr]
    exact Text.charSlice?_isSome (Text.length_charsBefore_mono cs (Nat.le_of_lt hlt))
      (Text.length_charsBefore_le cs _)
  · rfl

theorem finish?_isSome : (st.finish? cs).isSome := by
  unfold finish? rest?
  split
  · rw [Text.charIndex?_of_le h, Option.isSome_map]
    exact Text.charSlice?_isSome (Text.length_charsBefore_le cs _) (Nat.le_refl _)
  · rfl

/-- A step succeeds and stays inside the source. -/
theorem step?_inside (shown : Region → String → String) (r : Region) :
    ∃ st', st.step? shown cs r = some st' ∧ st'.position ≤ byteSize cs := by
  unfold step?
  split
  · exact ⟨st, rfl, h⟩
  · next hskip =>
    have hstop : r.stop ≤ byteSize cs := Nat.le_of_not_lt fun hlt => hskip (.inr hlt)
    split
    · exact ⟨st, rfl, h⟩
    · obtain ⟨gap, hgap⟩ :=
        Option.isSome_iff_exists.1 (gap?_isSome h (Nat.le_trans r.start_le_stop hstop))
      rw [hgap]
      exact ⟨_, rfl, hstop⟩

theorem steps_inside (shown : Region → String → String) (regions : List Region) :
    ∃ st', regions.foldlM (step? shown cs) st = some st' ∧ st'.position ≤ byteSize cs := by
  induction regions generalizing st with
  | nil => exact ⟨st, rfl, h⟩
  | cons r rs ih =>
    obtain ⟨st', hstep, hst'⟩ := step?_inside h shown r
    rw [List.foldlM_cons, hstep]
    exact ih hst'

end Rendering

/-- Rendering never indexes outside of the source. -/
theorem renderWith?_isSome (shown : Region → String → String) (source : String)
    (regions : List Region) : (renderWith? shown source regions).isSome := by
  unfold renderWith?
  split
  · rfl
  · have hstart : ({} : Rendering).position ≤ byteSize source.toList := Nat.zero_le _
    obtain ⟨st, hst, hinside⟩ := Rendering.steps_inside hstart shown (byStart regions)
    rw [hst]
    exact Rendering.finish?_isSome hinside

/-! ## Plain and coloured text -/

/-- The escape that starts the colour of a category; bold for one without a colour. -/
def colorOf (category : String) : String :=
  match category with
  | "Comparison" => "\x1b[34m"
  | "Arrow" => "\x1b[32m"
  | "Keyword" => "\x1b[35m"
  | "Operator" => "\x1b[33m"
  | "Greek Letters" => "\x1b[36m"
  | _ => "\x1b[1m"

def colorEnd : String := "\x1b[0m"

/-- The colour of a glyph: that of the category of the text it stands for. -/
def glyphColor (table : Table) (text : String) : String :=
  colorOf ((table.find? text).elim "" Mapping.category)

/-- What is shown for a region and the text that it replaces. -/
def shownAs (table : Table) (colored : Bool) (r : Region) (text : String) : String :=
  if colored then glyphColor table text ++ r.placeholder ++ colorEnd else r.placeholder

/-- The source with the placeholders of its regions, in colour or not, and how many were applied. -/
def renderCounted? (table : Table) (source : String) (regions : List Region) (colored : Bool) :
    Option (String × Nat) :=
  renderWith? (shownAs table colored) source regions

def renderCounted (table : Table) (source : String) (regions : List Region) (colored : Bool) :
    String × Nat :=
  (renderCounted? table source regions colored).get (renderWith?_isSome ..)

theorem renderCounted_of_eq_some {table : Table} {source : String} {regions : List Region}
    {colored : Bool} {rendered : String × Nat}
    (h : renderCounted? table source regions colored = some rendered) :
    renderCounted table source regions colored = rendered := Option.get_of_eq_some _ h

def render (source : String) (regions : List Region) : String :=
  (renderCounted .empty source regions false).1

def renderColored (table : Table) (source : String) (regions : List Region) : String :=
  (renderCounted table source regions true).1

def renderCount (source : String) (regions : List Region) : Nat :=
  (renderCounted .empty source regions false).2

end GlyphFold
