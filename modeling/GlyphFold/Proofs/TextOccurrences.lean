import GlyphFold.Proofs.LongestMatch
import GlyphFold.Proofs.RegionOrder

/-!
# Occurrences in flat text

Each region that text mode gives folds an occurrence of the source of an unconditional mapping, and
the regions stand in order.

1. `Occurs`: a region folds an occurrence, and what that says of its ends and of its text
2. `Munch.occurs`, `Munch.inOrder`: the regions that the walk over a text emits
3. `exists_munch`: text mode keeps those that no quoted span holds
4. `occurs_of_mem_resolveText`, `inOrder_resolveText`: the regions of text mode
-/

namespace GlyphFold

open Text (byteSize byteSize_append)

/-! ## Occurrences -/

/-- The region shows a mapping's glyph where the mapping's source is admissible. -/
def Occurs (t : Table) (cs : List Char) (m : Mapping) (f : Region) : Prop :=
  ∃ before after, cs = before ++ m.source.toList ++ after ∧ Admissible t before m after ∧
    f = .token ⟨byteSize before, byteSize before + byteSize m.source.toList⟩ m.glyph

namespace Occurs

variable {t : Table} {cs : List Char} {m : Mapping} {f : Region} (h : Occurs t cs m f)

include h

/-- The text falls into what is before the region, the source that it covers, and what is after. -/
theorem split : ∃ before after, cs = before ++ m.source.toList ++ after ∧
    Admissible t before m after ∧ f.start = byteSize before ∧
    f.stop = byteSize (before ++ m.source.toList) := by
  obtain ⟨before, after, hcs, hm, rfl⟩ := h
  refine ⟨before, after, hcs, hm, Region.start_token (Nat.le_add_right _ _) _, ?_⟩
  rw [byteSize_append]
  exact Region.stop_token (Nat.le_add_right _ _) _

theorem standsFor : StandsFor t cs f m := by
  obtain ⟨before, after, hcs, hm, hstart, hstop⟩ := h.split
  refine ⟨Text.slice?_eq_some_iff.2 ⟨before, after, hcs, hstart.symm, ?_⟩, hm.found, ?_⟩
  · rw [hstart, hstop, byteSize_append]
  · obtain ⟨_, _, -, -, rfl⟩ := h
    rfl

theorem unconditional : m.condition = .always := by
  obtain ⟨_, _, -, hm, -⟩ := h
  exact hm.unconditional

end Occurs

/-! ## The walk -/

namespace Munch

variable {t : Table} {before cs : List Char} {out : List Region} (h : Munch t before cs out)

include h

theorem occurs {f : Region} (hf : f ∈ out) : ∃ m, Occurs t (before ++ cs) m f := by
  induction h with
  | done before => cases hf
  | @fold before cs after m out hcs hm _ _ ih =>
    subst hcs
    rw [← List.append_assoc]
    rcases List.mem_cons.1 hf with rfl | hf
    · exact ⟨m, before, after, rfl, hm, rfl⟩
    · exact ih hf
  | @pass before after c out _ _ ih =>
    rw [← List.append_cons] at ih
    exact ih hf

theorem behind {f : Region} (hf : f ∈ out) : byteSize before ≤ f.start := by
  induction h with
  | done before => cases hf
  | fold _ _ _ _ ih =>
    rcases List.mem_cons.1 hf with rfl | hf
    · exact Nat.le_of_eq (Region.start_token (Nat.le_add_right _ _) _).symm
    · rw [byteSize_append] at ih
      exact Nat.le_of_add_right_le (ih hf)
  | pass _ _ ih =>
    rw [byteSize_append] at ih
    exact Nat.le_of_add_right_le (ih hf)

/-- The walk goes on where the region that it emitted ends, so the next ones start there or behind. -/
theorem disjoint : out.Pairwise fun f f' => f.stop ≤ f'.start := by
  induction h with
  | done before => exact .nil
  | fold _ _ _ go_on ih =>
    refine List.pairwise_cons.2 ⟨fun f hf => ?_, ih⟩
    rw [Region.stop_token (Nat.le_add_right _ _), ← byteSize_append]
    exact go_on.behind hf
  | pass _ _ ih => exact ih

theorem inOrder (ht : t.Consistent) : InOrder (before ++ cs) out :=
  inOrder_of_standsFor ht (fun _ hf => (h.occurs hf).imp fun _ hm => hm.standsFor) h.disjoint

end Munch

/-! ## Text mode -/

namespace Resolver

variable {engine : Engine} {t : Table} {ev : Evaluator} {r : Resolver} (ht : t.Consistent)
  (hr : new engine t ev = .ok r) (text : String)

include ht hr

/-- Text mode gives the regions of the walk that no quoted span holds. -/
theorem exists_munch : ∃ out, Munch t [] text.toList out ∧
    r.resolveText text = out.filter fun f => !(quotedSpans text).any (·.holds f.range) := by
  obtain ⟨rfl, hpattern⟩ := new_eq_ok hr
  have hsorted := Pattern.longestFirst_mergeSort ht
  exact ⟨_, Pattern.munch_matchesBehind ht hsorted [] text.toList,
    resolveText_eq_filter r ht hsorted hpattern text⟩

theorem occurs_of_mem_resolveText {f : Region} (hf : f ∈ r.resolveText text) :
    ∃ m, Occurs t text.toList m f := by
  obtain ⟨out, hout, htext⟩ := exists_munch ht hr text
  rw [htext] at hf
  exact hout.occurs (List.mem_of_mem_filter hf)

theorem inOrder_resolveText : InOrder text.toList (r.resolveText text) := by
  obtain ⟨out, hout, htext⟩ := exists_munch ht hr text
  rw [htext]
  exact (hout.inOrder ht).sublist List.filter_sublist

end Resolver

end GlyphFold
