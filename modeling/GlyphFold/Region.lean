import GlyphFold.Text.Bytes

/-!
# Fold regions

A stretch of a document that is shown as a placeholder. Its offsets are in order: a reversed range
is turned round when the region is made.
-/

namespace GlyphFold

structure Region where
  start : Nat
  stop : Nat
  /-- What is shown instead of the text. -/
  placeholder : String
  group : Option String := none
  /-- Folded when the document opens. -/
  collapsed : Bool := false
  /-- Cannot be unfolded. -/
  nonExpandable : Bool := false
  start_le_stop : start ≤ stop := by omega
  deriving DecidableEq, Repr

namespace Region

/-- The region of a range in either direction. -/
def ofRange (range : Span) (placeholder : String) : Region where
  start := min range.start range.stop
  stop := max range.start range.stop
  placeholder := placeholder

/-- The region of one token: folded from the start and for good. -/
def token (range : Span) (placeholder : String) : Region :=
  { ofRange range placeholder with collapsed := true, nonExpandable := true }

def withGroup (r : Region) (group : String) : Region := { r with group := some group }

def range (r : Region) : Span := ⟨r.start, r.stop⟩

def length (r : Region) : Nat := r.stop - r.start

def isEmpty (r : Region) : Bool := r.start == r.stop

/-- `r` covers all of `q`. -/
def contains (r q : Region) : Bool := r.start ≤ q.start && q.stop ≤ r.stop

/-- Some of `q` lies strictly inside `r`, or the other way round. -/
def overlaps (r q : Region) : Bool := r.start < q.stop && q.start < r.stop

theorem overlaps_comm (r q : Region) : r.overlaps q = q.overlaps r := by
  simp only [overlaps, Bool.and_comm]

theorem range_token {range : Span} (h : range.start ≤ range.stop) (placeholder : String) :
    (token range placeholder).range = range := by
  show (⟨min range.start range.stop, max range.start range.stop⟩ : Span) = range
  rw [Nat.min_eq_left h, Nat.max_eq_right h]

theorem start_token {start stop : Nat} (h : start ≤ stop) (placeholder : String) :
    (token ⟨start, stop⟩ placeholder).start = start := Nat.min_eq_left h

theorem stop_token {start stop : Nat} (h : start ≤ stop) (placeholder : String) :
    (token ⟨start, stop⟩ placeholder).stop = stop := Nat.max_eq_right h

end Region

end GlyphFold
