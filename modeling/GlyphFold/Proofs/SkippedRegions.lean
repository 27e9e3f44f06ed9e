import GlyphFold.Builtin
import GlyphFold.Proofs.RegionOrder

/-!
# Regions that are passed over

Rendering goes through the regions by their starts and passes over those that start before the end
of the last applied one. Regions that fit the source and do not overlap can fall to that in one way:
an empty region does, if it comes behind a longer one with the same start. Sorting keeps the order
of the list for equal starts, so this depends on the list.

1. `mem_picked`, `picked_eq_self_iff`: of regions in the order of their starts, those that are
   longer than nothing apply, and all do if each ends where the next one starts or before
2. `HiddenBehind`, `pairwise_byStart_iff`: sorting hides no region and shows none
3. `count_renderCounted`: what is counted are the regions that apply
4. `count_eq_length_iff`: when all regions are counted
-/

namespace GlyphFold

open Text (IsBoundary byteSize)

/-! ## Regions in the order of their starts -/

/-- The region fits the source: it ends within, and at both ends it cuts no character. -/
def FitsIn (cs : List Char) (f : Region) : Prop :=
  f.stop ≤ byteSize cs ∧ IsBoundary cs f.start ∧ IsBoundary cs f.stop

instance (cs : List Char) (f : Region) : Decidable (FitsIn cs f) :=
  inferInstanceAs (Decidable (_ ∧ _ ∧ _))

/-- No two of the regions overlap. -/
def Apart (regions : List Region) : Prop := regions.Pairwise fun f f' => f.overlaps f' = false

instance (regions : List Region) : Decidable (Apart regions) :=
  inferInstanceAs (Decidable (List.Pairwise _ _))

theorem FitsIn.applies_iff {cs : List Char} {f : Region} (h : FitsIn cs f) {last : Nat} :
    Applies cs last f ↔ last ≤ f.start :=
  GlyphFold.applies_iff.trans (and_iff_left h)

theorem overlaps_eq_false_iff {f f' : Region} :
    f.overlaps f' = false ↔ f'.stop ≤ f.start ∨ f.stop ≤ f'.start := by
  unfold Region.overlaps
  rw [Bool.and_eq_false_iff, decide_eq_false_iff_not, decide_eq_false_iff_not, Nat.not_lt,
    Nat.not_lt]

theorem picked_sublist (cs : List Char) (last : Nat) (regions : List Region) :
    (picked cs last regions).Sublist regions := by
  induction regions generalizing last with
  | nil => exact .slnil
  | cons f fs ih =>
    rw [picked]
    split
    · exact (ih f.stop).cons_cons f
    · exact (ih last).cons f

section Picked

variable {cs : List Char} {regions : List Region} (hfits : ∀ f ∈ regions, FitsIn cs f)

include hfits

/-- All regions apply if and only if each ends where the next one starts or before. -/
theorem picked_eq_self_iff {last : Nat} :
    picked cs last regions = regions ↔
      (∀ f ∈ regions, last ≤ f.start) ∧ regions.Pairwise fun f f' => f.stop ≤ f'.start := by
  induction regions generalizing last with
  | nil => simp [picked]
  | cons f fs ih =>
    obtain ⟨hf, hfs⟩ := List.forall_mem_cons.1 hfits
    rw [picked, List.forall_mem_cons, List.pairwise_cons]
    by_cases h : last ≤ f.start
    · have hlater : (∀ f' ∈ fs, f.stop ≤ f'.start) → ∀ f' ∈ fs, last ≤ f'.start :=
        fun hnext f' hf' => Nat.le_trans (Nat.le_trans h f.start_le_stop) (hnext f' hf')
      rw [if_pos (hf.applies_iff.2 h), List.cons_eq_cons, eq_self, true_and, ih hfs]
      exact ⟨fun hall => ⟨⟨h, hlater hall.1⟩, hall⟩, And.right⟩
    · rw [if_neg (mt hf.applies_iff.1 h)]
      refine iff_of_false (fun heq => ?_) fun hall => h hall.1.1
      have hlength := (picked_sublist cs last fs).length_le
      rw [heq, List.length_cons] at hlength
      omega

/-- A region that is not empty applies: the regions before it end at its start or before, since they
do not start behind it and do not overlap it. -/
theorem mem_picked (hsorted : regions.Pairwise fun f f' => f.start ≤ f'.start)
    (hapart : Apart regions) {last : Nat} {f : Region} (hf : f ∈ regions) (hne : f.start < f.stop)
    (hlast : last ≤ f.start) : f ∈ picked cs last regions := by
  induction regions generalizing last with
  | nil => cases hf
  | cons g gs ih =>
    obtain ⟨hg, hgs⟩ := List.forall_mem_cons.1 hfits
    obtain ⟨hstarts, hsorted⟩ := List.pairwise_cons.1 hsorted
    obtain ⟨hoverlaps, hapart⟩ := List.pairwise_cons.1 hapart
    rw [picked]
    rcases List.mem_cons.1 hf with rfl | hf
    · rw [if_pos (hg.applies_iff.2 hlast)]
      exact List.mem_cons_self
    · have hends : g.stop ≤ f.start := by
        have := hstarts f hf
        rcases overlaps_eq_false_iff.1 (hoverlaps f hf) with h | h
        · omega
        · exact h
      split
      · exact List.mem_cons_of_mem _ (ih hgs hsorted hapart hf hends)
      · exact ih hgs hsorted hapart hf hlast

end Picked

/-! ## Hidden regions -/

/-- The region is empty and stands behind one with the same start that is not. -/
def HiddenBehind (f f' : Region) : Prop :=
  f.start = f'.start ∧ f.start < f.stop ∧ f'.isEmpty = true

instance (f f' : Region) : Decidable (HiddenBehind f f') :=
  inferInstanceAs (Decidable (_ ∧ _ ∧ _))

/-- What holds of any two regions with different starts can be asked of those with equal starts. -/
theorem pairwise_iff_ties {R : Region → Region → Prop} (hR : ∀ f f', f.start ≠ f'.start → R f f')
    {regions : List Region} :
    regions.Pairwise R ↔ ∀ n, (regions.filter fun f => f.start = n).Pairwise R := by
  refine ⟨fun h n => h.sublist List.filter_sublist, fun h => ?_⟩
  rw [List.pairwise_iff_forall_sublist]
  intro f f' hsub
  by_cases hstart : f.start = f'.start
  · have htied := hsub.filter fun q => decide (q.start = f'.start)
    have hboth : [f, f'].filter (fun q => decide (q.start = f'.start)) = [f, f'] := by simp [hstart]
    rw [hboth] at htied
    exact List.pairwise_iff_forall_sublist.1 (h f'.start) htied
  · exact hR f f' hstart

theorem pairwise_byStart_iff (regions : List Region) :
    (byStart regions).Pairwise (fun f f' => ¬ HiddenBehind f f') ↔
      regions.Pairwise fun f f' => ¬ HiddenBehind f f' := by
  have hR : ∀ f f' : Region, f.start ≠ f'.start → ¬ HiddenBehind f f' := fun _ _ h h' => h h'.1
  rw [pairwise_iff_ties hR, pairwise_iff_ties hR]
  simp only [(stableByStart_byStart regions).ties]

theorem Apart.byStart {regions : List Region} (h : Apart regions) : Apart (byStart regions) :=
  (stableByStart_byStart regions).perm.symm.pairwise h fun {f f'} hff =>
    (Region.overlaps_comm f' f).trans hff

/-- Of regions that do not overlap, in the order of their starts, each ends where the next one
starts or before, unless it hides it. -/
theorem stop_le_start_iff {regions : List Region}
    (hsorted : regions.Pairwise fun f f' => f.start ≤ f'.start) (hapart : Apart regions) :
    (regions.Pairwise fun f f' => f.stop ≤ f'.start) ↔
      regions.Pairwise fun f f' => ¬ HiddenBehind f f' := by
  constructor
  · refine fun h => h.imp fun {f f'} hle hhidden => ?_
    obtain ⟨hstart, hlt, -⟩ := hhidden
    omega
  · refine fun h => (h.and (hsorted.and hapart)).imp fun {f f'} hff => ?_
    obtain ⟨hshown, hle, hoverlaps⟩ := hff
    refine (overlaps_eq_false_iff.1 hoverlaps).elim (fun hbefore => ?_) id
    -- `f'` is empty and starts where `f` does
    have hf' := f'.start_le_stop
    by_contra hlt
    exact hshown ⟨by omega, by omega, beq_iff_eq.2 (by omega)⟩

/-! ## Counted regions -/

theorem count_renderCounted (table : Table) (source : String) (regions : List Region)
    (colored : Bool) :
    (renderCounted table source regions colored).2 =
      (picked source.toList 0 (byStart regions)).length := by
  obtain ⟨cuts, rest, hpicked, -, -, hrendered⟩ :=
    exists_cuts_renderCounted table source regions colored
  rw [hrendered, ← hpicked, List.length_map]

section Counted

variable {source : String} {regions : List Region} (hfits : ∀ f ∈ regions, FitsIn source.toList f)

include hfits

theorem fits_byStart : ∀ f ∈ byStart regions, FitsIn source.toList f := fun f hf =>
  hfits f ((stableByStart_byStart regions).perm.mem_iff.1 hf)

/-- All regions apply if none is hidden behind another. -/
theorem length_picked_iff (hapart : Apart regions) :
    (picked source.toList 0 (byStart regions)).length = regions.length ↔
      regions.Pairwise fun f f' => ¬ HiddenBehind f f' := by
  have hstable := stableByStart_byStart regions
  have hwhole : (picked source.toList 0 (byStart regions)).length = regions.length ↔
      picked source.toList 0 (byStart regions) = byStart regions := by
    rw [← hstable.perm.length_eq]
    exact ⟨(picked_sublist source.toList 0 (byStart regions)).eq_of_length, congrArg List.length⟩
  rw [hwhole, picked_eq_self_iff (fits_byStart hfits),
    stop_le_start_iff hstable.sorted hapart.byStart, pairwise_byStart_iff]
  exact and_iff_right fun f _ => Nat.zero_le f.start

/-- **When all regions are shown.** Of regions that fit the source and do not overlap, rendering, in
colour or not, applies all that are not empty. It applies all of them, so that it counts as many as
there are, exactly if no empty one stands in the list behind one that starts at the same place and
is not empty. -/
theorem count_eq_length_iff (hapart : Apart regions) (table : Table) (colored : Bool) :
    (∀ f ∈ regions, f ∉ picked source.toList 0 (byStart regions) → f.isEmpty = true) ∧
    ((renderCounted table source regions colored).2 = regions.length ↔
      regions.Pairwise fun f f' => ¬ HiddenBehind f f') := by
  have hstable := stableByStart_byStart regions
  refine ⟨fun f hf hskipped => ?_, ?_⟩
  · have hle := f.start_le_stop
    by_contra hne
    have hlt : f.start < f.stop :=
      Nat.lt_of_le_of_ne hle fun heq => hne (beq_iff_eq.2 heq)
    exact hskipped (mem_picked (fits_byStart hfits) hstable.sorted hapart.byStart
      (hstable.perm.mem_iff.2 hf) hlt (Nat.zero_le _))
  · rw [count_renderCounted, length_picked_iff hfits hapart]

end Counted

/-- A comparison, and an empty region that shows a mark in front of it. -/
def markedComparison : List Region := [.token ⟨2, 4⟩ "≤", .ofRange ⟨2, 2⟩ "·"]

/-- Behind the comparison in the list the mark is hidden, though the two do not overlap. -/
theorem not_forall_count_eq_length :
    ¬ ∀ (table : Table) (source : String) (regions : List Region) (colored : Bool),
      (∀ f ∈ regions, FitsIn source.toList f) → Apart regions →
        (renderCounted table source regions colored).2 = regions.length := by
  intro h
  have hcount := h .builtin "a <= b" markedComparison false (by decide) (by decide)
  rw [count_renderCounted, length_picked_iff (by decide) (by decide)] at hcount
  exact absurd hcount (by decide)

/-- With the mark first in the list both are shown. -/
theorem count_markedComparison :
    (∀ f ∈ markedComparison.reverse, FitsIn "a <= b".toList f) ∧ Apart markedComparison.reverse ∧
      (renderCounted .builtin "a <= b" markedComparison.reverse true).2 = 2 := by
  have hfits : ∀ f ∈ markedComparison.reverse, FitsIn "a <= b".toList f := by decide
  have hapart : Apart markedComparison.reverse := by decide
  exact ⟨hfits, hapart, (count_eq_length_iff hfits hapart .builtin true).2.2 (by decide)⟩

end GlyphFold
