import GlyphFold.Text.Bytes

/-!
# Quoted spans

Flat text has no tokens, so a string is what stands between one double quote and the next. Quotes
are paired in order; a last one without a partner quotes nothing. Whether a range is quoted is found
by halving.

1. `partitionPoint`: where an array whose elements first satisfy a predicate and then do not passes
   from one to the other
2. `quotedSpans`, `insideQuotes`: the quoted spans of a text, and the ranges inside them
-/

namespace GlyphFold

/-! ## Partition points -/

section PartitionPoint

variable {α : Type}

/-- The partition point among the places from `low` up to `high`. -/
def partitionPointFrom (p : α → Bool) (xs : Array α) (low high : Nat) : Nat :=
  if low < high then
    let middle := low + (high - low) / 2
    if xs[middle]?.any p then partitionPointFrom p xs (middle + 1) high
    else partitionPointFrom p xs low middle
  else low
termination_by high - low

/-- How many elements come before the first one that does not satisfy the predicate. -/
def partitionPoint (p : α → Bool) (xs : Array α) : Nat := partitionPointFrom p xs 0 xs.size

/-- No element that satisfies the predicate comes behind one that does not. -/
def Partitioned (p : α → Bool) (xs : Array α) : Prop :=
  ∀ i j (hij : i ≤ j) (hj : j < xs.size), p xs[j] → p xs[i]

/-- The search keeps the partition point between its two ends. -/
theorem partitionPointFrom_spec {p : α → Bool} {xs : Array α} (hxs : Partitioned p xs)
    {low high : Nat} (hle : low ≤ high) (hsize : high ≤ xs.size)
    (hlow : ∀ i (hi : i < xs.size), i < low → p xs[i])
    (hhigh : ∀ i (hi : i < xs.size), high ≤ i → ¬ p xs[i]) :
    ∀ i (hi : i < xs.size), p xs[i] ↔ i < partitionPointFrom p xs low high := by
  induction low, high using partitionPointFrom.induct p xs with
  | case1 low high hlt middle hp ih =>
    have hmiddle : middle < xs.size := by omega
    rw [Array.getElem?_eq_getElem hmiddle, Option.any_some] at hp
    rw [partitionPointFrom, if_pos hlt, if_pos (by rwa [Array.getElem?_eq_getElem hmiddle])]
    exact ih (by omega) hsize (fun i hi hlt => hxs i middle (by omega) hmiddle hp) hhigh
  | case2 low high hlt middle hp ih =>
    have hmiddle : middle < xs.size := by omega
    rw [Array.getElem?_eq_getElem hmiddle, Option.any_some] at hp
    rw [partitionPointFrom, if_pos hlt, if_neg (by rwa [Array.getElem?_eq_getElem hmiddle])]
    exact ih (by omega) (by omega) hlow fun i hi hle hpi => hp (hxs middle i hle hi hpi)
  | case3 low high hge =>
    intro i hi
    rw [partitionPointFrom, if_neg hge]
    exact ⟨fun hp => Decidable.byContradiction fun hn => hhigh i hi (by omega) hp, hlow i hi⟩

theorem lt_partitionPoint_iff {p : α → Bool} {xs : Array α} (hxs : Partitioned p xs) {i : Nat}
    (hi : i < xs.size) : i < partitionPoint p xs ↔ p xs[i] :=
  (partitionPointFrom_spec hxs (Nat.zero_le _) (Nat.le_refl _)
    (fun _ _ h => absurd h (Nat.not_lt_zero _)) (fun _ hi h => absurd hi (by omega)) i hi).symm

end PartitionPoint

/-! ## Spans -/

/-- The spans from each opening quote to the end of its closing one, for the text that starts at
`offset`; `opening` is the offset of a quote that is still open. -/
def quotedSpansFrom : (offset : Nat) → (opening : Option Nat) → List Char → List Span
  | _, _, [] => []
  | offset, none, c :: cs =>
    quotedSpansFrom (offset + c.utf8Size) (if c = '"' then some offset else none) cs
  | offset, some q, c :: cs =>
    if c = '"' then ⟨q, offset + 1⟩ :: quotedSpansFrom (offset + 1) none cs
    else quotedSpansFrom (offset + c.utf8Size) (some q) cs

def quotedSpans (text : String) : List Span := quotedSpansFrom 0 none text.toList

/-- The range lies inside the span. -/
def Span.holds (s range : Span) : Bool := s.start ≤ range.start && range.stop ≤ s.stop

theorem Span.holds_iff {s range : Span} :
    s.holds range = true ↔ s.start ≤ range.start ∧ range.stop ≤ s.stop := by
  unfold holds
  rw [Bool.and_eq_true, decide_eq_true_iff, decide_eq_true_iff]

/-- The range lies inside one of the spans, which are disjoint and in increasing order: only the
first that reaches the range's end can hold it. -/
def insideQuotes (spans : List Span) (range : Span) : Bool :=
  let first := partitionPoint (·.stop < range.stop) spans.toArray
  spans[first]?.any (·.holds range)

end GlyphFold
