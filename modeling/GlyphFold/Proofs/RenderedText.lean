import GlyphFold.Proofs.SortedLists
import GlyphFold.Render

/-!
# What rendering shows

A source falls into the gaps between its applied regions and the texts of those. Rendering keeps the
gaps and shows each text by its placeholder, so nothing of the source is lost or shown twice.

1. The regions are taken in the stable order of their starts (`stableByStart_byStart`).
2. `Applies`, `picked`: which regions are applied, without reference to how a source is copied.
3. One step either passes a region over that does not apply, or copies the gap before one that does
   (`step?_of_not_applies`, `step?_of_split`).
4. `renderCounted_eq_interleave`: plain text, coloured text and count come from one decomposition.
-/

namespace GlyphFold

open Text (IsBoundary byteSize byteSize_append)

/-! ## The order of the regions -/

/-- Sorted by start offset, with equal starts in the order of the list. -/
structure StableByStart (regions ordered : List Region) : Prop where
  perm : ordered.Perm regions
  sorted : ordered.Pairwise fun r r' => r.start ≤ r'.start
  ties : ∀ n, (ordered.filter fun r => r.start = n) = regions.filter fun r => r.start = n

theorem stableByStart_byStart (regions : List Region) :
    StableByStart regions (byStart regions) := by
  have htrans (r r' r'' : Region) : r.start ≤ r'.start → r'.start ≤ r''.start →
      r.start ≤ r''.start := Nat.le_trans
  have htotal (r r' : Region) : r.start ≤ r'.start ∨ r'.start ≤ r.start := Nat.le_total _ _
  refine ⟨List.mergeSort_perm .., pairwise_mergeSort_decide htrans htotal regions, fun n => ?_⟩
  refine filter_mergeSort htrans htotal (fun r r' hr hr' => ?_) regions
  have hn := of_decide_eq_true hr
  have hn' := of_decide_eq_true hr'
  omega

/-! ## The regions that are applied -/

/-- A region is applied behind the offset `last`. -/
structure Applies (cs : List Char) (last : Nat) (r : Region) : Prop where
  behind : last ≤ r.start
  within : r.stop ≤ byteSize cs
  start_boundary : IsBoundary cs r.start
  stop_boundary : IsBoundary cs r.stop

theorem applies_iff {cs : List Char} {last : Nat} {r : Region} :
    Applies cs last r ↔ last ≤ r.start ∧ r.stop ≤ byteSize cs ∧ IsBoundary cs r.start ∧
      IsBoundary cs r.stop :=
  ⟨fun ⟨h₁, h₂, h₃, h₄⟩ => ⟨h₁, h₂, h₃, h₄⟩, fun ⟨h₁, h₂, h₃, h₄⟩ => ⟨h₁, h₂, h₃, h₄⟩⟩

instance (cs : List Char) (last : Nat) (r : Region) : Decidable (Applies cs last r) :=
  decidable_of_iff _ applies_iff.symm

/-- The regions that are applied of those in a list, gone through from left to right; `last` is the
end of the region applied before. -/
def picked (cs : List Char) : (last : Nat) → List Region → List Region
  | _, [] => []
  | last, r :: rs =>
    if Applies cs last r then r :: picked cs r.stop rs else picked cs last rs

/-! ## Decompositions -/

/-- An applied region, with its own text and the text between it and the one before. -/
structure Cut where
  gap : String
  own : String
  region : Region

/-- The text `g₀ x₁ g₁ … xₙ gₙ` with the gaps `g` of the cuts and what `x` gives for each. -/
def interleave (x : Cut → String) : List Cut → (rest : String) → String
  | [], rest => rest
  | c :: cuts, rest => c.gap ++ x c ++ interleave x cuts rest

/-- Each region covers its own text, where the decomposition that starts at `offset` has it. -/
def Placed : (offset : Nat) → List Cut → Prop
  | _, [] => True
  | offset, c :: cuts =>
    c.region.start = offset + byteSize c.gap.toList ∧
      c.region.stop = c.region.start + byteSize c.own.toList ∧ Placed c.region.stop cuts

/-- A region that applies splits the rest of the text into a gap, its own text and what follows. -/
theorem Applies.split {done todo : List Char} {r : Region}
    (h : Applies (done ++ todo) (byteSize done) r) :
    ∃ gap own after, todo = gap ++ own ++ after ∧ r.start = byteSize done + byteSize gap ∧
      r.stop = r.start + byteSize own := by
  obtain ⟨a, rest, hcs, ha⟩ := h.start_boundary
  obtain ⟨a', after, hcs', ha'⟩ := h.stop_boundary
  have hle : byteSize a ≤ byteSize a' := by
    rw [ha, ha']
    exact r.start_le_stop
  obtain ⟨gap, rfl, rfl⟩ := Text.append_of_byteSize_le hcs (ha ▸ h.behind)
  obtain ⟨own, rfl, rfl⟩ := Text.append_of_byteSize_le (hcs.symm.trans hcs') hle
  rw [byteSize_append] at ha
  rw [byteSize_append, byteSize_append] at ha'
  exact ⟨gap, own, after, (List.append_assoc ..).symm, ha.symm, by omega⟩

/-! ## Steps -/

namespace Rendering

variable {shown : Region → String → String}

/-- A region that does not apply is passed over. -/
theorem step?_of_not_applies {cs : List Char} {st : Rendering} {r : Region}
    (h : ¬ Applies cs st.position r) : step? shown cs st r = some st := by
  unfold step?
  by_cases hskip : r.start < st.position ∨ byteSize cs < r.stop
  · rw [if_pos hskip]
  · rw [if_neg hskip]
    have hslice : Text.slice? cs r.start r.stop = none := by
      refine Option.eq_none_iff_forall_ne_some.2 fun own hown => h ?_
      obtain ⟨a, b, hcs, ha, hown⟩ := Text.slice?_eq_some_iff.1 hown
      refine ⟨Nat.le_of_not_lt fun hlt => hskip (.inl hlt),
        Nat.le_of_not_lt fun hlt => hskip (.inr hlt), ⟨a, own ++ b, ?_, ha⟩, ⟨a ++ own, b, hcs, ?_⟩⟩
      · rw [hcs, List.append_assoc]
      · rw [byteSize_append, ha, hown]
    rw [hslice]

section Split

variable {done gap own after : List Char} {r : Region}
  (hstart : r.start = byteSize done + byteSize gap)

include hstart

theorem gap?_of_split (output : String) (applied : Nat) :
    gap? (done ++ gap ++ own ++ after) ⟨output, byteSize done, applied⟩ r = some gap := by
  unfold gap?
  by_cases hlt : byteSize done < r.start
  · have hdone : Text.charIndex? (done ++ gap ++ own ++ after) (byteSize done) =
        some done.length := by
      rw [List.append_assoc, List.append_assoc]
      exact Text.charIndex?_append done _
    have hgap : Text.charIndex? (done ++ gap ++ own ++ after) r.start =
        some (done ++ gap).length := by
      rw [hstart, ← byteSize_append, List.append_assoc]
      exact Text.charIndex?_append (done ++ gap) _
    rw [if_pos hlt, hdone, hgap, List.append_assoc]
    exact Text.charSlice?_append done gap _
  · rw [if_neg hlt, Text.byteSize_eq_zero.1 (by omega : byteSize gap = 0)]

/-- A region behind the copied text is applied: the gap before it is copied, its own text shown. -/
theorem step?_of_split (hstop : r.stop = r.start + byteSize own) (output : String) (applied : Nat) :
    step? shown (done ++ gap ++ own ++ after) ⟨output, byteSize done, applied⟩ r =
      some ⟨output ++ String.ofList gap ++ shown r (String.ofList own), r.stop, applied + 1⟩ := by
  have hslice : Text.slice? (done ++ gap ++ own ++ after) r.start r.stop = some own :=
    Text.slice?_eq_some_iff.2 ⟨done ++ gap, after, rfl, by rw [byteSize_append, hstart], hstop.symm⟩
  have hkeep : ¬ (r.start < byteSize done ∨ byteSize (done ++ gap ++ own ++ after) < r.stop) := by
    simp only [byteSize_append]
    omega
  unfold step?
  rw [if_neg hkeep, hslice, gap?_of_split hstart]
  rfl

end Split

theorem finish?_of_append (done todo : List Char) (output : String) (applied : Nat) :
    finish? (done ++ todo) ⟨output, byteSize done, applied⟩ =
      some (output ++ String.ofList todo, applied) := by
  have hrest : rest? (done ++ todo) ⟨output, byteSize done, applied⟩ = some todo := by
    unfold rest?
    by_cases hlt : byteSize done < byteSize (done ++ todo)
    · rw [if_pos hlt, Text.charIndex?_append]
      simpa using Text.charSlice?_append done todo []
    · rw [byteSize_append] at hlt
      rw [if_neg (by rwa [byteSize_append]), Text.byteSize_eq_zero.1 (by omega : byteSize todo = 0)]
  unfold finish?
  rw [hrest]
  rfl

/-! ## Runs -/

/-- A run from the end of `done` over any regions applies the picked ones, and shows the text behind
`done` with their own texts replaced. -/
theorem run_eq_interleave (done todo : List Char) (regions : List Region) :
    ∃ cuts rest, cuts.map Cut.region = picked (done ++ todo) (byteSize done) regions ∧
      String.ofList todo = interleave Cut.own cuts rest ∧ Placed (byteSize done) cuts ∧
      ∀ (shown : Region → String → String) (output : String) (applied : Nat),
        (regions.foldlM (step? shown (done ++ todo)) ⟨output, byteSize done, applied⟩).bind
            (finish? (done ++ todo)) =
          some (output ++ interleave (fun c => shown c.region c.own) cuts rest,
            applied + cuts.length) := by
  induction regions generalizing done todo with
  | nil =>
    exact ⟨[], String.ofList todo, rfl, rfl, trivial, fun shown output applied =>
      finish?_of_append done todo output applied⟩
  | cons r rs ih =>
    by_cases h : Applies (done ++ todo) (byteSize done) r
    · obtain ⟨gap, own, after, rfl, hstart, hstop⟩ := h.split
      have hend : byteSize (done ++ gap ++ own) = r.stop := by
        rw [byteSize_append, byteSize_append, ← hstart, hstop]
      have hcs : done ++ (gap ++ own ++ after) = done ++ gap ++ own ++ after := by
        simp only [List.append_assoc]
      obtain ⟨cuts, rest, hpicked, hsource, hplaced, hrun⟩ := ih (done ++ gap ++ own) after
      rw [hend] at hpicked hplaced hrun
      refine ⟨⟨String.ofList gap, String.ofList own, r⟩ :: cuts, rest, ?_, ?_, ?_, ?_⟩
      · rw [picked, if_pos h, hcs, List.map_cons, hpicked]
      · rw [String.ofList_append, String.ofList_append, hsource]
        rfl
      · exact ⟨by rw [String.toList_ofList, hstart], by rw [String.toList_ofList, hstop], hplaced⟩
      · intro shown output applied
        rw [List.foldlM_cons, hcs, step?_of_split hstart hstop]
        refine (hrun shown _ _).trans ?_
        simp only [interleave, String.append_assoc, List.length_cons, Nat.add_assoc,
          Nat.add_comm 1]
    · obtain ⟨cuts, rest, hpicked, hsource, hplaced, hrun⟩ := ih done todo
      refine ⟨cuts, rest, ?_, hsource, hplaced, fun shown output applied => ?_⟩
      · rw [picked, if_neg h, hpicked]
      · rw [List.foldlM_cons, step?_of_not_applies h]
        exact hrun shown output applied

end Rendering

/-! ## Rendered texts -/

/-- The shortcut for no regions gives what the pass over them does. -/
theorem renderWith?_eq_foldlM (shown : Region → String → String) (source : String)
    (regions : List Region) :
    renderWith? shown source regions =
      ((byStart regions).foldlM (Rendering.step? shown source.toList) {}).bind
        (Rendering.finish? source.toList) := by
  unfold renderWith?
  cases regions with
  | nil =>
    have hfinish := Rendering.finish?_of_append [] source.toList "" 0
    rw [String.ofList_toList, String.empty_append] at hfinish
    rw [byStart, List.mergeSort_nil]
    exact hfinish.symm
  | cons r rs => rfl

/-- **Rendered text.** There is one decomposition of a source into gaps and the texts of the applied
regions, from which plain and coloured text come by showing the placeholders in their stead. Both
count the applied regions, which are those picked in the order of their starts. -/
theorem renderCounted_eq_interleave (table : Table) (source : String) (regions : List Region) :
    ∃ ordered cuts rest, StableByStart regions ordered ∧
      cuts.map Cut.region = picked source.toList 0 ordered ∧ Placed 0 cuts ∧
      source = interleave Cut.own cuts rest ∧
      render source regions = interleave (fun c => c.region.placeholder) cuts rest ∧
      renderColored table source regions =
        interleave (fun c => colorOf ((table.find? c.own).elim "" Mapping.category) ++
          c.region.placeholder ++ "\x1b[0m") cuts rest ∧
      renderCounted? table source regions false = some (render source regions, cuts.length) ∧
      renderCounted? table source regions true =
        some (renderColored table source regions, cuts.length) := by
  obtain ⟨cuts, rest, hpicked, hsource, hplaced, hrun⟩ :=
    Rendering.run_eq_interleave [] source.toList (byStart regions)
  rw [String.ofList_toList] at hsource
  have hrendered : ∀ shown : Region → String → String, renderWith? shown source regions =
      some (interleave (fun c => shown c.region c.own) cuts rest, cuts.length) := by
    intro shown
    rw [renderWith?_eq_foldlM]
    refine (hrun shown "" 0).trans ?_
    rw [String.empty_append, Nat.zero_add]
  have hplain : render source regions = interleave (fun c => c.region.placeholder) cuts rest :=
    congrArg Prod.fst (renderCounted_of_eq_some (hrendered (shownAs .empty false)))
  have hcolored : renderColored table source regions =
      interleave (fun c => shownAs table true c.region c.own) cuts rest :=
    congrArg Prod.fst (renderCounted_of_eq_some (hrendered (shownAs table true)))
  refine ⟨byStart regions, cuts, rest, stableByStart_byStart regions, hpicked, hplaced, hsource,
    hplain, hcolored, ?_, ?_⟩
  · rw [hplain]
    exact hrendered (shownAs table false)
  · rw [hcolored]
    exact hrendered (shownAs table true)

end GlyphFold
