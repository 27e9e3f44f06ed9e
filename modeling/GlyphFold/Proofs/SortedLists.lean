/-!
# Sorted lists

A list is sorted by a relation that is transitive and total. Elements that may stand in either order
are left as they were.

1. `pairwise_mergeSort_decide`: the sorted list is in order
2. `filter_mergeSort`: elements that may all stand in front of each other keep their order
3. `pairwise_mergeSort_or`: in a list that was in some order before, ties stand in that order
4. `RanksBefore`: an order in which there are no ties, by decreasing numbers and then by name
-/

namespace GlyphFold

section

variable {α : Type} {r : α → α → Prop} [DecidableRel r]

theorem decide_trans (htrans : ∀ a b c, r a b → r b c → r a c) (a b c : α)
    (hab : decide (r a b) = true) (hbc : decide (r b c) = true) : decide (r a c) = true :=
  decide_eq_true (htrans a b c (of_decide_eq_true hab) (of_decide_eq_true hbc))

theorem decide_total (htotal : ∀ a b, r a b ∨ r b a) (a b : α) :
    (decide (r a b) || decide (r b a)) = true := by
  rw [Bool.or_eq_true, decide_eq_true_iff, decide_eq_true_iff]
  exact htotal a b

variable (htrans : ∀ a b c, r a b → r b c → r a c) (htotal : ∀ a b, r a b ∨ r b a)

include htrans htotal

theorem pairwise_mergeSort_decide (l : List α) :
    (l.mergeSort fun a b => decide (r a b)).Pairwise r :=
  (List.pairwise_mergeSort (decide_trans htrans) (decide_total htotal) l).imp of_decide_eq_true

theorem filter_mergeSort {tied : α → Bool}
    (htied : ∀ a b, tied a = true → tied b = true → r a b) (l : List α) :
    (l.mergeSort fun a b => decide (r a b)).filter tied = l.filter tied := by
  -- the tied elements are sorted as they stand, so sorting keeps them as a sublist
  have hsorted : (l.filter tied).Pairwise fun a b => decide (r a b) = true :=
    List.pairwise_of_forall_mem_list fun a ha b hb =>
      decide_eq_true (htied a b (List.mem_filter.1 ha).2 (List.mem_filter.1 hb).2)
  have hsub := (List.sublist_mergeSort (decide_trans htrans) (decide_total htotal) hsorted
    List.filter_sublist).filter tied
  rw [List.filter_filter] at hsub
  simp only [Bool.and_self] at hsub
  exact (hsub.eq_of_length ((List.mergeSort_perm l _).filter tied).length_eq.symm).symm

theorem pairwise_mergeSort_or {before : α → α → Prop} {l : List α} (hl : l.Pairwise before) :
    (l.mergeSort fun a b => decide (r a b)).Pairwise fun a b => ¬ r b a ∨ (r a b ∧ before a b) := by
  refine List.pairwise_iff_forall_sublist.2 fun {a b} hpair => ?_
  have hab : r a b :=
    List.pairwise_iff_forall_sublist.1 (pairwise_mergeSort_decide htrans htotal l) hpair
  by_cases hba : r b a
  · refine .inr ⟨hab, List.pairwise_iff_forall_sublist.1 hl ?_⟩
    -- `a` and `b` are among the elements tied with `a`, which stand in the list as they did
    let tied : α → Bool := fun x => decide (r a x ∧ r x a)
    have haa : r a a := or_self_iff.1 (htotal a a)
    have htied : ∀ x y, tied x = true → tied y = true → r x y := fun x y hx hy =>
      htrans x a y (of_decide_eq_true hx).2 (of_decide_eq_true hy).1
    have hkept : [a, b].filter tied = [a, b] := by simp [tied, haa, hab, hba]
    have hsub := hpair.filter tied
    rw [hkept, filter_mergeSort htrans htotal htied] at hsub
    exact hsub.trans List.filter_sublist
  · exact .inl hba

end

/-! ## Numbered names -/

/-- The larger number comes first, and of names with equal numbers the lesser one. -/
def RanksBefore (a b : String × Nat) : Prop := b.2 < a.2 ∨ (a.2 = b.2 ∧ a.1 ≤ b.1)

instance (a b : String × Nat) : Decidable (RanksBefore a b) := inferInstanceAs (Decidable (_ ∨ _))

namespace RanksBefore

variable {a b c : String × Nat}

theorem trans (hab : RanksBefore a b) (hbc : RanksBefore b c) : RanksBefore a c := by
  rcases hab with hab | ⟨hab, hle⟩ <;> rcases hbc with hbc | ⟨hbc, hle'⟩
  · exact .inl (by omega)
  · exact .inl (by omega)
  · exact .inl (by omega)
  · exact .inr ⟨by omega, String.le_trans hle hle'⟩

theorem total (a b : String × Nat) : RanksBefore a b ∨ RanksBefore b a := by
  rcases Nat.lt_trichotomy a.2 b.2 with hlt | heq | hlt
  · exact .inr (.inl hlt)
  · exact (String.le_total a.1 b.1).imp (fun h => .inr ⟨heq, h⟩) fun h => .inr ⟨heq.symm, h⟩
  · exact .inl (.inl hlt)

theorem antisymm (hab : RanksBefore a b) (hba : RanksBefore b a) : a = b := by
  rcases hab with hab | ⟨heq, hle⟩ <;> rcases hba with hba | ⟨heq', hge⟩
  · omega
  · omega
  · omega
  · exact Prod.ext (String.le_antisymm hle hge) heq

end RanksBefore

end GlyphFold
