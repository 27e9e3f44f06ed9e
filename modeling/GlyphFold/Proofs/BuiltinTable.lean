import GlyphFold.Builtin
import GlyphFold.Proofs.SortedLists
import GlyphFold.Proofs.TableReplay

/-!
# Recognizing the built-in table

Whether a table is the built-in one is decided by sorting its mappings and comparing them with the
built-in mappings, one by one. The sources of a table are all different, so sorted by source its
mappings have one order only, and what is compared is what the two tables find.

1. `sorted_eq_sorted_iff`: mappings with different sources are sorted alike exactly if they are the
   same ones
2. `perm_all_iff`: tables have the same mappings exactly if they find the same
3. `isBuiltin_iff`: the tables that count as built-in
-/

namespace GlyphFold.Table

/-! ## Sorted mappings -/

theorem sorted_perm (ms : List Mapping) : (sorted ms).Perm ms := List.mergeSort_perm ..

theorem pairwise_sorted (ms : List Mapping) : (sorted ms).Pairwise (·.source ≤ ·.source) := by
  have htrans (a b c : Mapping) : a.source ≤ b.source → b.source ≤ c.source →
      a.source ≤ c.source := String.le_trans
  have htotal (a b : Mapping) : a.source ≤ b.source ∨ b.source ≤ a.source :=
    String.le_total _ _
  exact pairwise_mergeSort_decide htrans htotal ms

/-- Two mappings with different sources come in one order only. -/
theorem sorted_eq_sorted_iff {ms ms' : List Mapping} (hms : (ms.map Mapping.source).Nodup) :
    sorted ms = sorted ms' ↔ ms.Perm ms' := by
  constructor
  · intro h
    exact (sorted_perm ms).symm.trans (h ▸ sorted_perm ms')
  · intro h
    have hperm : (sorted ms).Perm (sorted ms') :=
      (sorted_perm ms).trans (h.trans (sorted_perm ms').symm)
    refine hperm.eq_of_pairwise (fun a b ha hb hab hba => ?_) (pairwise_sorted ms)
      (pairwise_sorted ms')
    have ha : a ∈ ms := (sorted_perm ms).mem_iff.1 ha
    have hb : b ∈ ms := h.mem_iff.2 ((sorted_perm ms').mem_iff.1 hb)
    exact List.inj_on_of_nodup_map hms ha hb (String.le_antisymm hab hba)

/-! ## Tables with the same mappings -/

/-- Tables that find the same mappings list the same ones, be it in another order. -/
theorem perm_all_iff {t t' : Table} (h : t.Consistent) (h' : t'.Consistent) :
    t.all.Perm t'.all ↔ ∀ s, t.find? s = t'.find? s := by
  constructor
  · intro hperm s
    ext m
    rw [find?_eq_some_iff h, find?_eq_some_iff h', hperm.mem_iff]
  · intro hfind
    refine (List.perm_ext_iff_of_nodup (nodup_source_all h).of_map
      (nodup_source_all h').of_map).2 fun m => ?_
    have hown : t.find? m.source = some m ↔ t'.find? m.source = some m := by rw [hfind]
    rwa [find?_eq_some_iff h, find?_eq_some_iff h', and_iff_left rfl, and_iff_left rfl] at hown

/-! ## The built-in table -/

theorem consistent_builtin : builtin.Consistent := by
  unfold builtin
  rw [ofMappings_eq_run]
  exact consistent_run _

theorem nodup_source_builtinMappings : (builtinMappings.map Mapping.source).Nodup := by
  decide +kernel

/-- The built-in mappings have different sources, so the built-in table has all of them. -/
theorem all_builtin_perm : builtin.all.Perm builtinMappings := by
  have hne : ∀ m ∈ builtinMappings, m.source ≠ "" := by decide +kernel
  refine (List.perm_ext_iff_of_nodup (nodup_source_all consistent_builtin).of_map
    nodup_source_builtinMappings.of_map).2 fun m => ?_
  have hfound := (ofMappings_distinct hne nodup_source_builtinMappings).1 m.source m
  rwa [show ofMappings builtinMappings = builtin from rfl, find?_eq_some_iff consistent_builtin,
    and_iff_left rfl, and_iff_left rfl] at hfound

/-- **Recognizing the built-in table.** After any run of edits a table counts as built-in exactly if
it finds for every source what the built-in table finds, with glyph, category and condition. This is
so exactly if it lists the built-in mappings, whatever the order of its categories and of the
sources in them. -/
theorem isBuiltin_iff (edits : List Edit) :
    ((empty.run edits).isBuiltin = true ↔ ∀ s, (empty.run edits).find? s = builtin.find? s) ∧
      ((empty.run edits).isBuiltin = true ↔ (empty.run edits).all.Perm builtinMappings) := by
  have h : (empty.run edits).Consistent := consistent_run edits
  have hperm : (empty.run edits).isBuiltin = true ↔
      (empty.run edits).all.Perm builtinMappings := by
    unfold isBuiltin
    rw [Bool.and_eq_true, beq_iff_eq, beq_iff_eq, sorted_eq_sorted_iff (nodup_source_all h)]
    exact and_iff_right_of_imp List.Perm.length_eq
  refine ⟨hperm.trans ?_, hperm⟩
  rw [← perm_all_iff h consistent_builtin]
  exact ⟨fun hall => hall.trans all_builtin_perm.symm, fun hall => hall.trans all_builtin_perm⟩

end GlyphFold.Table
