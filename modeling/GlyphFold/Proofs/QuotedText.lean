import GlyphFold.QuotedSpans

/-!
# Quoted text

The quoted spans of a text are disjoint and in increasing order (`ordered_quotedSpans`). So the search
for the first span that reaches the end of a range decides whether any span holds the range
(`insideQuotes_quotedSpans`).
-/

namespace GlyphFold

/-- Nonempty spans, each ending before the next one starts. -/
structure OrderedSpans (spans : List Span) : Prop where
  nonempty : ∀ s ∈ spans, s.start < s.stop
  disjoint : spans.Pairwise fun s s' => s.stop ≤ s'.start

/-! ## The spans of a text -/

/-- The spans found from `offset` on lie behind it, a quote that is still open apart. -/
theorem ordered_quotedSpansFrom (cs : List Char) :
    ∀ (offset : Nat) (opening : Option Nat), (∀ q ∈ opening, q < offset) →
      OrderedSpans (quotedSpansFrom offset opening cs) ∧
        ∀ s ∈ quotedSpansFrom offset opening cs, opening.getD offset ≤ s.start := by
  induction cs with
  | nil =>
    intro offset opening _
    cases opening <;> exact ⟨⟨nofun, .nil⟩, nofun⟩
  | cons c cs ih =>
    intro offset opening hopening
    have hpos : 0 < c.utf8Size := c.utf8Size_pos
    cases opening with
    | none =>
      rw [quotedSpansFrom]
      by_cases hc : c = '"'
      · rw [if_pos hc]
        exact ih (offset + c.utf8Size) (some offset) fun q hq => by cases hq; omega
      · rw [if_neg hc]
        obtain ⟨hordered, hbehind⟩ := ih (offset + c.utf8Size) none (nofun)
        exact ⟨hordered, fun s hs => Nat.le_of_add_right_le (hbehind s hs)⟩
    | some q =>
      have hq : q < offset := hopening q rfl
      rw [quotedSpansFrom]
      by_cases hc : c = '"'
      · rw [if_pos hc]
        obtain ⟨hordered, hbehind⟩ := ih (offset + 1) none (nofun)
        have hbehind : ∀ s ∈ quotedSpansFrom (offset + 1) none cs, offset + 1 ≤ s.start := hbehind
        refine ⟨⟨fun s hs => ?_, List.pairwise_cons.2 ⟨hbehind, hordered.disjoint⟩⟩, fun s hs => ?_⟩
        · rcases List.mem_cons.1 hs with rfl | hs
          · exact Nat.lt_succ_of_lt hq
          · exact hordered.nonempty s hs
        · rcases List.mem_cons.1 hs with rfl | hs
          · exact Nat.le_refl q
          · have := hbehind s hs
            show q ≤ s.start
            omega
      · rw [if_neg hc]
        exact ih (offset + c.utf8Size) (some q) fun q' hq' => by cases hq'; omega

theorem ordered_quotedSpans (text : String) : OrderedSpans (quotedSpans text) :=
  (ordered_quotedSpansFrom text.toList 0 none (nofun)).1

/-! ## Ranges inside spans -/

section Inside

variable {spans : List Span} (h : OrderedSpans spans)

include h

theorem OrderedSpans.le_of_lt {i j : Nat} (hij : i < j) (hj : j < spans.length) :
    spans[i].start ≤ spans[j].start ∧ spans[i].stop ≤ spans[j].stop := by
  have hbefore := List.pairwise_iff_getElem.1 h.disjoint i j (by omega) hj hij
  have hi := h.nonempty _ (List.getElem_mem (by omega : i < spans.length))
  have hj := h.nonempty _ (List.getElem_mem hj)
  omega

theorem OrderedSpans.partitioned (stop : Nat) : Partitioned (·.stop < stop) spans.toArray := by
  intro i j hij hj hlt
  rcases Nat.lt_or_eq_of_le hij with hij | rfl
  · have hle := (h.le_of_lt hij hj).2
    simp only [List.getElem_toArray, decide_eq_true_eq] at hlt ⊢
    omega
  · exact hlt

/-- Of ordered spans the first that reaches the end of a range holds it if any does. -/
theorem OrderedSpans.insideQuotes_eq_any (range : Span) :
    insideQuotes spans range = spans.any (·.holds range) := by
  rw [Bool.eq_iff_iff, List.any_eq_true]
  unfold insideQuotes
  have hpoint : ∀ i (hi : i < spans.length),
      i < partitionPoint (·.stop < range.stop) spans.toArray ↔ spans[i].stop < range.stop := by
    intro i hi
    rw [lt_partitionPoint_iff (h.partitioned range.stop) (by simpa using hi)]
    simp
  generalize partitionPoint (·.stop < range.stop) spans.toArray = first at hpoint
  show spans[first]?.any (·.holds range) = true ↔ _
  constructor
  · intro hany
    obtain ⟨s, hs, hin⟩ := (Option.any_eq_true ..).1 hany
    exact ⟨s, List.mem_of_getElem? hs, hin⟩
  · rintro ⟨s, hs, hin⟩
    obtain ⟨j, hj, rfl⟩ := List.getElem_of_mem hs
    rw [Span.holds_iff] at hin
    have hle : first ≤ j := Nat.le_of_not_lt fun hlt => by
      have := (hpoint j hj).1 hlt
      omega
    have hfirst : first < spans.length := by omega
    have hstop : range.stop ≤ spans[first].stop := Nat.le_of_not_lt fun hlt =>
      Nat.lt_irrefl _ ((hpoint first hfirst).2 hlt)
    have hstart : spans[first].start ≤ spans[j].start := by
      rcases Nat.lt_or_eq_of_le hle with hlt | heq
      · exact (h.le_of_lt hlt hj).1
      · simp [heq]
    rw [List.getElem?_eq_getElem hfirst, Option.any_some, Span.holds_iff]
    exact ⟨Nat.le_trans hstart hin.1, hstop⟩

end Inside

theorem insideQuotes_quotedSpans (text : String) (range : Span) :
    insideQuotes (quotedSpans text) range = (quotedSpans text).any (·.holds range) :=
  (ordered_quotedSpans text).insideQuotes_eq_any range

end GlyphFold
