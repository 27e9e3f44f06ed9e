import GlyphFold.Proofs.ActiveTable
import GlyphFold.Proofs.LongestMatch
import GlyphFold.Proofs.TableHistory

/-!
# Rules without categories

To a resolver a mapping is its source, its glyph and its condition. The category and the place that
the listing gives to a mapping come from the history of the table, and they are of no effect: tables
with the same rules resolve alike.

1. `SameConditions`: tables with the same sources under the same conditions are accepted alike
   (`misses_congr`) and make the same pattern, since of two sources always the same one comes first
   (`ofTable_congr`)
2. `Table.rule?`, `SameRules`: what a table says of a source, its category apart
3. `resolveLeaf_congr_rules`: the same rules fold the same leaves
4. `resolve_eq_of_sameRules`: the whole of it, for tables made by any edits
-/

namespace GlyphFold

/-! ## Conditions -/

/-- The tables have mappings of the same sources, under the same conditions. -/
def SameConditions (t t' : Table) : Prop :=
  ∀ s, (t.find? s).map Mapping.condition = (t'.find? s).map Mapping.condition

namespace SameConditions

variable {t t' : Table} (h : SameConditions t t')

include h

theorem symm : SameConditions t' t := fun s => (h s).symm

theorem exists_find? {s : String} {m : Mapping} (hm : t.find? s = some m) :
    ∃ m', t'.find? s = some m' ∧ m'.condition = m.condition := by
  have hcond := h s
  rw [hm, Option.map_some] at hcond
  exact Option.map_eq_some_iff.1 hcond.symm

theorem isEmpty_of_isEmpty (hempty : t.isEmpty = true) : t'.isEmpty = true := by
  refine Std.ExtTreeMap.isEmpty_iff.2 (Std.ExtTreeMap.eq_empty_iff_forall_not_mem.2 fun s hs => ?_)
  obtain ⟨m', hm'⟩ := Option.isSome_iff_exists.1 (Std.ExtTreeMap.mem_iff_isSome_getElem?.1 hs)
  obtain ⟨m, hm, -⟩ := h.symm.exists_find? hm'
  rw [Table.find?_of_isEmpty hempty] at hm
  cases hm

theorem isEmpty_congr : t.isEmpty = t'.isEmpty :=
  Bool.eq_iff_iff.2 ⟨h.isEmpty_of_isEmpty, h.symm.isEmpty_of_isEmpty⟩

theorem misses {ev : Evaluator} (hmisses : ev.Misses t) : ev.Misses t' := by
  obtain ⟨s, m, hm, hc, hnone⟩ := hmisses
  obtain ⟨m', hm', hcond⟩ := h.exists_find? hm
  exact ⟨s, m', hm', hcond ▸ hc, hcond ▸ hnone⟩

theorem misses_congr (ev : Evaluator) : ev.Misses t ↔ ev.Misses t' := ⟨h.misses, h.symm.misses⟩

end SameConditions

/-! ## Rules -/

/-- What a source is shown as, and under which condition. -/
def Table.rule? (t : Table) (s : String) : Option (String × Condition) :=
  (t.find? s).map fun m => (m.glyph, m.condition)

/-- The tables have mappings of the same sources, and these differ in their categories at most. -/
def SameRules (t t' : Table) : Prop := ∀ s, t.rule? s = t'.rule? s

/-- Tables made by edits can differ in the sources of those edits only. -/
theorem sameRules_of_forall_edit {edits edits' : List Table.Edit}
    (h : ∀ e ∈ edits ++ edits',
      (Table.empty.run edits).rule? e.source = (Table.empty.run edits').rule? e.source) :
    SameRules (Table.empty.run edits) (Table.empty.run edits') := by
  intro s
  by_cases hs : ∃ e ∈ edits ++ edits', e.source = s
  · obtain ⟨e, he, rfl⟩ := hs
    exact h e he
  · have hnone : ∀ es : List Table.Edit, es ⊆ edits ++ edits' → (Table.empty.run es).find? s = none := by
      intro es hsub
      rw [Table.find?_run]
      refine Option.eq_none_iff_forall_ne_some.2 fun m hm => hs ?_
      obtain ⟨e, he, hes⟩ := Table.exists_edit_of_recorded hm
      exact ⟨e, hsub he, hes⟩
    unfold Table.rule?
    rw [hnone edits (List.subset_append_left _ _), hnone edits' (List.subset_append_right _ _)]

namespace SameRules

variable {t t' : Table} (h : SameRules t t')

include h

theorem symm : SameRules t' t := fun s => (h s).symm

theorem sameConditions : SameConditions t t' := by
  intro s
  have hrule := congrArg (Option.map Prod.snd) (h s)
  simpa only [Table.rule?, Option.map_map, Function.comp_def] using hrule

theorem exists_find? {s : String} {m : Mapping} (hm : t.find? s = some m) :
    ∃ m', t'.find? s = some m' ∧ m'.glyph = m.glyph ∧ m'.condition = m.condition := by
  have hrule : t'.rule? s = some (m.glyph, m.condition) := by
    rw [← h s, Table.rule?, hm]
    rfl
  obtain ⟨m', hm', hparts⟩ := Option.map_eq_some_iff.1 hrule
  exact ⟨m', hm', congrArg Prod.fst hparts, congrArg Prod.snd hparts⟩

theorem map_glyph (s : String) : (t.find? s).map Mapping.glyph = (t'.find? s).map Mapping.glyph := by
  have hrule := congrArg (Option.map Prod.fst) (h s)
  simpa only [Table.rule?, Option.map_map, Function.comp_def] using hrule

end SameRules

/-! ## Patterns -/

namespace Pattern

variable {t t' : Table} (ht : t.Consistent) (ht' : t'.Consistent) (h : SameConditions t t')

omit ht' h in
include ht in
theorem nodup_unconditional : (unconditional t).Nodup :=
  (List.filter_sublist.map Mapping.source).nodup (Table.nodup_source_all ht)

include ht ht' h

theorem unconditional_perm : (unconditional t).Perm (unconditional t') := by
  refine (List.perm_ext_iff_of_nodup (nodup_unconditional ht) (nodup_unconditional ht')).2 fun s => ?_
  rw [mem_unconditional ht, mem_unconditional ht']
  constructor
  · rintro ⟨m, hm, hc⟩
    obtain ⟨m', hm', hcond⟩ := h.exists_find? hm
    exact ⟨m', hm', hcond.trans hc⟩
  · rintro ⟨m', hm', hc⟩
    obtain ⟨m, hm, hcond⟩ := h.symm.exists_find? hm'
    exact ⟨m, hm, hcond.trans hc⟩

/-- The order in which the tables list their sources is lost when these are sorted. -/
theorem ofTable_congr : ofTable t = ofTable t' :=
  ofTable_eq_ofSources ((List.mergeSort_perm ..).trans (unconditional_perm ht ht' h).symm)
    (List.pairwise_mergeSort before_trans before_total _)

end Pattern

/-! ## Acceptance -/

theorem SameConditions.refused_congr {t t' : Table} (ht : t.Consistent) (ht' : t'.Consistent)
    (h : SameConditions t t') (engine : Engine) (ev : Evaluator) :
    Refused engine ev t ↔ Refused engine ev t' := by
  have hnone : Pattern.unconditional t = [] ↔ Pattern.unconditional t' = [] :=
    ⟨fun hnil => (hnil ▸ Pattern.unconditional_perm ht ht' h).nil_eq.symm,
      fun hnil => (hnil ▸ Pattern.unconditional_perm ht ht' h).eq_nil⟩
  unfold Refused Engine.fault?
  simp only [h.misses_congr, hnone, Pattern.ofTable_congr ht ht' h]

theorem Resolver.exists_new_iff {engine : Engine} {t : Table} {ev : Evaluator}
    (ht : t.Consistent) : (∃ r, new engine t ev = .ok r) ↔ ¬ Refused engine ev t := by
  rw [← patternOf_eq_error_iff_refused ht]
  cases hnew : new engine t ev with
  | error e => simpa using ⟨e, new_eq_error_iff.1 hnew⟩
  | ok r =>
    obtain ⟨hvalid, hbuilt, -⟩ := new_eq_ok_iff.1 hnew
    simp [patternOf_eq_ok_iff.2 ⟨hvalid, hbuilt, rfl⟩]

/-! ## Resolving -/

namespace Resolver

section Rules

variable {r r' : Resolver} (hev : r.evaluator = r'.evaluator) (h : SameRules r.table r'.table)

include hev h

theorem resolveLeaf_of_sameRules {tree : TokenTree} {g : Grammar} {n : Node} {region : Region}
    (hregion : r.resolveLeaf tree g n = some region) : r'.resolveLeaf tree g n = some region := by
  obtain ⟨m, ctx, hcand, hcond, rfl⟩ := resolveLeaf_eq_some_iff.1 hregion
  obtain ⟨text, htext, hne, hm, hstring, rfl⟩ := candidate?_eq_some_iff.1 hcand
  obtain ⟨m', hm', hglyph, hcondition⟩ := h.exists_find? hm
  refine resolveLeaf_eq_some_iff.2 ⟨m', ⟨n.kind, text, tree.parentKind? n, g⟩,
    candidate?_eq_some_iff.2 ⟨text, htext, hne, hm', hstring, rfl⟩, ?_, ?_⟩
  · rwa [hcondition, ← hev]
  · rw [hglyph]

theorem resolveLeaf_congr_rules (tree : TokenTree) (g : Grammar) (n : Node) :
    r.resolveLeaf tree g n = r'.resolveLeaf tree g n := by
  ext region
  exact ⟨resolveLeaf_of_sameRules hev h, resolveLeaf_of_sameRules hev.symm h.symm⟩

theorem resolve_congr (tree : TokenTree) (g : Grammar) (id : NodeId) :
    r.resolve tree g id = r'.resolve tree g id := by
  have hleaf : r.resolveLeaf tree g = r'.resolveLeaf tree g :=
    funext (resolveLeaf_congr_rules hev h tree g)
  unfold resolve
  rw [hleaf, h.sameConditions.isEmpty_congr]

omit hev in
theorem resolveText_congr (hpattern : r.pattern = r'.pattern) (text : String) :
    r.resolveText text = r'.resolveText text := by
  have hmatch : resolveMatch r.table = resolveMatch r'.table := by
    funext x
    have hglyph := congrArg (Option.map (Region.token x.range)) (h.map_glyph x.text)
    simpa only [resolveMatch, Option.map_map, Function.comp_def] using hglyph
  unfold resolveText
  rw [hmatch, hpattern]

end Rules

/-- **Categories and history do not matter.** Tables with the same rules, each made by any edits, are
both accepted or both refused, whatever the engine and the evaluator. Resolvers for the two give the
same regions on every tree, for every grammar and from every node, and on every text. -/
theorem resolve_eq_of_sameRules (engine : Engine) (edits edits' : List Table.Edit)
    (ev : Evaluator) (h : SameRules (Table.empty.run edits) (Table.empty.run edits')) :
    ((∃ r, new engine (Table.empty.run edits) ev = .ok r) ↔
      ∃ r', new engine (Table.empty.run edits') ev = .ok r') ∧
    ∀ r r', new engine (Table.empty.run edits) ev = .ok r →
      new engine (Table.empty.run edits') ev = .ok r' →
      (∀ tree g id, r.resolve tree g id = r'.resolve tree g id) ∧
      ∀ text, r.resolveText text = r'.resolveText text := by
  have ht := Table.consistent_run edits
  have ht' := Table.consistent_run edits'
  constructor
  · rw [exists_new_iff ht, exists_new_iff ht', h.sameConditions.refused_congr ht ht']
  · intro r r' hr hr'
    obtain ⟨-, -, rfl⟩ := new_eq_ok_iff.1 hr
    obtain ⟨-, -, rfl⟩ := new_eq_ok_iff.1 hr'
    exact ⟨resolve_congr rfl h, resolveText_congr h (Pattern.ofTable_congr ht ht' h.sameConditions)⟩

/-- Two mappings under one category. -/
def comparisonsFirst : List Table.Edit :=
  [.upsert ⟨"<=", "≤", "Comparison", .always⟩, .upsert ⟨"**", "^", "Comparison", .parentIsBinary⟩]

/-- The same two under other categories and the other way round, with a third one that is removed
again. -/
def comparisonsLast : List Table.Edit :=
  [.upsert ⟨"**", "^", "Power", .parentIsBinary⟩, .upsert ⟨"<", "‹", "Order", .always⟩,
    .upsert ⟨"<=", "≤", "Order", .always⟩, .remove "<"]

/-- The two lists of edits make different tables and the same rules, and fold a text alike. -/
theorem resolveText_comparisonsLast :
    Table.empty.run comparisonsFirst ≠ Table.empty.run comparisonsLast ∧
    SameRules (Table.empty.run comparisonsFirst) (Table.empty.run comparisonsLast) ∧
    ∃ r r', new .willing (Table.empty.run comparisonsFirst) .builtin = .ok r ∧
      new .willing (Table.empty.run comparisonsLast) .builtin = .ok r' ∧
      r.resolveText "a<=b<c" = r'.resolveText "a<=b<c" := by
  have hrules : SameRules (Table.empty.run comparisonsFirst) (Table.empty.run comparisonsLast) :=
    sameRules_of_forall_edit (by decide +kernel)
  refine ⟨fun heq => ?_, hrules, _, _, rfl, rfl,
    ((resolve_eq_of_sameRules .willing comparisonsFirst comparisonsLast .builtin hrules).2
      _ _ rfl rfl).2 _⟩
  exact absurd (congrArg Table.categories heq) (by decide +kernel)

end Resolver

end GlyphFold
