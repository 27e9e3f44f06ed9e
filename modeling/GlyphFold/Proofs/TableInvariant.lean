import Mathlib.Data.List.Nodup
import GlyphFold.Table

/-!
# The invariant of tables

A table keeps its mappings twice over: by source, and in the order in which they are listed.
`Consistent` says that the two agree. Every edit keeps it.

1. An edit moves one source from the category of its mapping before to that of its mapping after
   (`order_apply`), so what it does to the views follows from the two (`find?_apply`,
   `sourcesIn_apply`, `categories_apply`).
2. `Consistent` holds of the empty table and is kept by every edit (`Consistent.apply`), hence holds
   after every run (`consistent_run`).
3. `run_listing_agrees`: after every run the listing holds exactly the sources of the mappings, each
   once and under its own category.
-/

namespace GlyphFold

namespace Listing

/-! ## Moves -/

/-- Moves a source from one category to the end of another; `none` is outside of the listing. -/
def move (source : String) (before after : Option String) (gs : List Group) : List Group :=
  if before = after then gs
  else
    let gs := before.elim gs fun c => detach c source gs
    after.elim gs fun c => attach c source gs

theorem move_of_eq {before after : Option String} (h : before = after) (source : String)
    (gs : List Group) : move source before after gs = gs := if_pos h

theorem sourcesIn_move {gs : List Group} (hgs : (categories gs).Nodup)
    {before after : Option String} (h : before ≠ after) (source c : String) :
    sourcesIn c (move source before after gs) =
      (if before = some c then (sourcesIn c gs).filter (· ≠ source) else sourcesIn c gs) ++
        if after = some c then [source] else [] := by
  have hdetach : sourcesIn c (before.elim gs fun b => detach b source gs) =
      if before = some c then (sourcesIn c gs).filter (· ≠ source) else sourcesIn c gs := by
    cases before with
    | none => rfl
    | some b =>
      rw [Option.elim_some, sourcesIn_detach hgs]
      by_cases hb : c = b
      · rw [if_pos hb, if_pos (congrArg some hb.symm), hb]
      · rw [if_neg hb, if_neg fun e => hb (Option.some.inj e).symm]
  unfold move
  rw [if_neg h]
  cases after with
  | none => simp [hdetach]
  | some a =>
    rw [Option.elim_some, sourcesIn_attach]
    by_cases ha : c = a
    · rw [if_pos ha, if_pos (congrArg some ha.symm), ← ha, hdetach]
    · rw [if_neg ha, if_neg fun e => ha (Option.some.inj e).symm, hdetach, List.append_nil]

theorem categories_move {gs : List Group} (hgs : (categories gs).Nodup)
    {before after : Option String} (h : before ≠ after) (source : String) :
    categories (move source before after gs) =
      (categories gs).filter
          (fun c => before ≠ some c ∨ (sourcesIn c gs).filter (· ≠ source) ≠ []) ++
        (after.filter (· ∉ categories gs)).toList := by
  have hdetach : categories (before.elim gs fun b => detach b source gs) =
      (categories gs).filter
        (fun c => before ≠ some c ∨ (sourcesIn c gs).filter (· ≠ source) ≠ []) := by
    cases before with
    | none => simp
    | some b =>
      rw [Option.elim_some, categories_detach hgs]
      split
      · next hb =>
        refine List.filter_congr fun c _ => ?_
        by_cases hc : c = b
        · rw [hc, hb]; simp
        · simp [hc, Ne.symm hc]
      · next hb =>
        refine (List.filter_eq_self.2 fun c _ => ?_).symm
        by_cases hc : c = b
        · subst hc; simpa using hb
        · simp [Ne.symm hc]
  unfold move
  rw [if_neg h]
  cases after with
  | none => simp [hdetach]
  | some a =>
    have hmem : a ∈ categories (before.elim gs fun b => detach b source gs) ↔
        a ∈ categories gs := by
      rw [hdetach, List.mem_filter]
      exact and_iff_left (by simp [h])
    rw [Option.elim_some, categories_attach, hdetach]
    by_cases ha : a ∈ categories gs
    · rw [if_pos (hdetach ▸ hmem.2 ha), Option.filter_some_neg (by simpa using ha)]
      exact (List.append_nil _).symm
    · rw [if_neg (hdetach ▸ mt hmem.1 ha), Option.filter_some_pos (by simpa using ha)]
      rfl

end Listing

namespace Table

open Listing (sourcesIn)

/-! ## Lookups -/

/-- Tables that find the same and list alike are the same. -/
theorem ext_find? {t t' : Table} (hfind : ∀ s, t.find? s = t'.find? s) (horder : t.order = t'.order) :
    t = t' := by
  obtain ⟨entries, order⟩ := t
  obtain ⟨entries', order'⟩ := t'
  obtain rfl : order = order' := horder
  obtain rfl : entries = entries' := Std.ExtTreeMap.ext_getElem? hfind
  rfl

@[simp] theorem find?_empty (source : String) : empty.find? source = none := by
  unfold find? empty
  simp

theorem find?_of_isEmpty {t : Table} (h : t.isEmpty = true) (source : String) :
    t.find? source = none := by
  unfold isEmpty at h
  unfold find?
  rw [Std.ExtTreeMap.isEmpty_iff.1 h]
  simp

theorem find?_insert (t : Table) (m : Mapping) (order : List Group) (source : String) :
    find? ⟨t.entries.insert m.source m, order⟩ source =
      if source = m.source then some m else t.find? source := by
  unfold find?
  rw [Std.ExtTreeMap.getElem?_insert]
  by_cases hs : source = m.source
  · simp [hs]
  · simp [hs, Ne.symm hs]

theorem find?_erase (t : Table) (erased : String) (order : List Group) (source : String) :
    find? ⟨t.entries.erase erased, order⟩ source =
      if source = erased then none else t.find? source := by
  unfold find?
  rw [Std.ExtTreeMap.getElem?_erase]
  by_cases hs : source = erased
  · simp [hs]
  · simp [hs, Ne.symm hs]

/-- The category of a source's mapping. -/
def category? (t : Table) (source : String) : Option String := (t.find? source).map Mapping.category

/-- What an edit leaves under its source. -/
def Edit.outcome : Edit → Option Mapping
  | upsert m => if m.source = "" then none else some m
  | remove _ => none

theorem Edit.outcome_eq_some_iff {e : Edit} {m : Mapping} :
    e.outcome = some m ↔ e = .upsert m ∧ m.source ≠ "" := by
  cases e with
  | upsert m' =>
    show (if m'.source = "" then none else some m') = some m ↔ _
    by_cases hm : m'.source = ""
    · rw [if_pos hm]
      refine ⟨(nomatch ·), fun ⟨he, hne⟩ => ?_⟩
      cases he
      exact absurd hm hne
    · rw [if_neg hm]
      refine ⟨fun he => ?_, fun ⟨he, _⟩ => ?_⟩
      · cases he
        exact ⟨rfl, hm⟩
      · cases he
        rfl
  | remove source => exact ⟨(nomatch ·), fun he => nomatch he.1⟩

/-! ## The invariant -/

/-- The mappings and the listing of a table agree. -/
structure Consistent (t : Table) : Prop where
  categories_nodup : t.categories.Nodup
  sourcesIn_ne_nil : ∀ c ∈ t.categories, sourcesIn c t.order ≠ []
  sourcesIn_nodup : ∀ c, (sourcesIn c t.order).Nodup
  mem_sourcesIn : ∀ c s, s ∈ sourcesIn c t.order ↔ t.category? s = some c
  source_of_find? : ∀ s m, t.find? s = some m → m.source = s
  find?_blank : t.find? "" = none

theorem consistent_empty : empty.Consistent where
  categories_nodup := List.nodup_nil
  sourcesIn_ne_nil c hc := nomatch hc
  sourcesIn_nodup c := List.nodup_nil
  mem_sourcesIn c s := by
    unfold category?
    rw [find?_empty]
    exact ⟨(nomatch ·), (nomatch ·)⟩
  source_of_find? s m h := by simp at h
  find?_blank := find?_empty ""

section Step

variable {t : Table} (h : t.Consistent)

include h

theorem ne_blank_of_find? {s : String} {m : Mapping} (hm : t.find? s = some m) : s ≠ "" := by
  rintro rfl
  exact nomatch h.find?_blank.symm.trans hm

theorem Consistent.source_ne_nil {m : Mapping} (hm : t.find? m.source = some m) :
    m.source.toList ≠ [] := fun he => ne_blank_of_find? h hm (String.toList_eq_nil_iff.1 he)

theorem find?_apply (e : Edit) (s : String) :
    (t.apply e).find? s = if s = e.source then e.outcome else t.find? s := by
  cases e with
  | upsert m =>
    show (t.upsert m).2.find? s = if s = m.source then if m.source = "" then none else some m else _
    unfold upsert
    by_cases hm : m.source = ""
    · rw [if_pos hm, if_pos hm, hm]
      split
      · next hs => rw [hs, h.find?_blank]
      · rfl
    · rw [if_neg hm, if_neg hm]
      exact find?_insert t m _ s
  | remove source =>
    show (t.remove source).2.find? s = if s = source then none else _
    unfold remove
    cases hold : t.find? source with
    | none =>
      show t.find? s = _
      split
      · next hs => rw [hs, hold]
      · rfl
    | some old => exact find?_erase t source _ s

theorem find?_upsert {m : Mapping} (hm : m.source ≠ "") (s : String) :
    (t.upsert m).2.find? s = if s = m.source then some m else t.find? s := by
  have hfind := find?_apply h (.upsert m) s
  rwa [Edit.outcome_eq_some_iff.2 ⟨rfl, hm⟩] at hfind

theorem category?_apply_self (e : Edit) :
    (t.apply e).category? e.source = e.outcome.map Mapping.category := by
  unfold category?
  rw [find?_apply h, if_pos rfl]

theorem category?_apply_ne (e : Edit) {s : String} (hs : s ≠ e.source) :
    (t.apply e).category? s = t.category? s := by
  unfold category?
  rw [find?_apply h, if_neg hs]

/-- An edit moves its source and leaves the rest of the listing alone. -/
theorem order_apply (e : Edit) :
    (t.apply e).order =
      Listing.move e.source (t.category? e.source) ((t.apply e).category? e.source) t.order := by
  rw [category?_apply_self h]
  cases e with
  | upsert m =>
    show (t.upsert m).2.order = Listing.move m.source ((t.find? m.source).map Mapping.category)
      ((if m.source = "" then none else some m).map Mapping.category) t.order
    unfold upsert
    by_cases hm : m.source = ""
    · rw [if_pos hm, if_pos hm, hm, h.find?_blank, Listing.move_of_eq rfl]
    · rw [if_neg hm, if_neg hm]
      cases hold : t.find? m.source with
      | none => rfl
      | some old =>
        unfold Listing.move
        by_cases hc : old.category = m.category
        · simp [hc]
        · simp [hc, h.source_of_find? _ _ hold]
  | remove source =>
    show (t.remove source).2.order = Listing.move source ((t.find? source).map Mapping.category)
      none t.order
    unfold remove
    cases hold : t.find? source with
    | none => rfl
    | some old =>
      show Listing.detach old.category old.source t.order = _
      rw [h.source_of_find? _ _ hold]
      rfl

theorem mem_categories {c : String} : c ∈ t.categories ↔ sourcesIn c t.order ≠ [] :=
  ⟨h.sourcesIn_ne_nil c, fun hc => by_contra fun hn => hc (Listing.sourcesIn_eq_nil hn)⟩

/-- After an edit a category lists the sources that it keeps, and then the one that enters it. -/
theorem sourcesIn_apply (e : Edit) (c : String) :
    sourcesIn c (t.apply e).order =
      (sourcesIn c t.order).filter (fun s => (t.apply e).category? s = some c) ++
        if t.category? e.source ≠ some c ∧ (t.apply e).category? e.source = some c then [e.source]
        else [] := by
  have hstays : ∀ s ∈ sourcesIn c t.order, s ≠ e.source → (t.apply e).category? s = some c := by
    intro s hs hne
    rw [category?_apply_ne h e hne]
    exact (h.mem_sourcesIn c s).1 hs
  rw [order_apply h]
  by_cases hab : t.category? e.source = (t.apply e).category? e.source
  · rw [Listing.move_of_eq hab, if_neg fun ⟨hn, hc⟩ => hn (hab.trans hc), List.append_nil]
    refine (List.filter_eq_self.2 fun s hs => decide_eq_true ?_).symm
    by_cases hse : s = e.source
    · rw [hse, ← hab, ← hse]
      exact (h.mem_sourcesIn c s).1 hs
    · exact hstays s hs hse
  · rw [Listing.sourcesIn_move h.categories_nodup hab]
    by_cases hb : t.category? e.source = some c
    · have ha : (t.apply e).category? e.source ≠ some c := fun ha => hab (hb.trans ha.symm)
      rw [if_pos hb, if_neg ha, if_neg fun hn => hn.1 hb]
      refine congrArg (· ++ []) (List.filter_congr fun s hs => ?_)
      by_cases hse : s = e.source
      · simp [hse, ha]
      · simp [hse, hstays s hs hse]
    · have hmem : e.source ∉ sourcesIn c t.order := mt (h.mem_sourcesIn c e.source).1 hb
      have hall : (sourcesIn c t.order).filter (fun s => (t.apply e).category? s = some c) =
          sourcesIn c t.order :=
        List.filter_eq_self.2 fun s hs =>
          decide_eq_true (hstays s hs fun hse => hmem (hse ▸ hs))
      rw [if_neg hb, hall]
      simp only [ne_eq, hb, not_false_eq_true, true_and]

/-- After an edit a table lists the categories that still have sources, and then a new one. -/
theorem categories_apply (e : Edit) :
    (t.apply e).categories =
      t.categories.filter (fun c => sourcesIn c (t.apply e).order ≠ []) ++
        (((t.apply e).category? e.source).filter (· ∉ t.categories)).toList := by
  unfold categories
  rw [order_apply h]
  by_cases hab : t.category? e.source = (t.apply e).category? e.source
  · have hnew : ((t.apply e).category? e.source).filter (· ∉ t.categories) = none := by
      rw [← hab, Option.filter_eq_none_iff]
      intro c hc
      have hs := (h.mem_sourcesIn c e.source).2 hc
      simpa using (mem_categories h).2 (List.ne_nil_of_mem hs)
    rw [Listing.move_of_eq hab]
    unfold categories at hnew
    rw [hnew, Option.toList_none, List.append_nil]
    exact (List.filter_eq_self.2 fun c hc => decide_eq_true (h.sourcesIn_ne_nil c hc)).symm
  · rw [Listing.categories_move h.categories_nodup hab]
    refine congrArg (· ++ _) (List.filter_congr fun c hc => ?_)
    rw [Listing.sourcesIn_move h.categories_nodup hab]
    by_cases hb : t.category? e.source = some c
    · have ha : (t.apply e).category? e.source ≠ some c := fun ha => hab (hb.trans ha.symm)
      simp only [hb, ha, ne_eq, not_true_eq_false, false_or, if_true, if_false, List.append_nil]
    · have hne := h.sourcesIn_ne_nil c hc
      simp only [hb, ne_eq, not_false_eq_true, true_or, if_false, List.append_eq_nil_iff, hne,
        false_and]

/-! ## Every edit keeps the invariant -/

theorem mem_sourcesIn_apply (e : Edit) (c s : String) :
    s ∈ sourcesIn c (t.apply e).order ↔ (t.apply e).category? s = some c := by
  rw [sourcesIn_apply h, List.mem_append, List.mem_filter, h.mem_sourcesIn]
  by_cases hse : s = e.source
  · subst hse
    by_cases ha : (t.apply e).category? e.source = some c
    · by_cases hb : t.category? e.source = some c
      · simp [ha, hb]
      · simp [ha, hb]
    · simp [ha]
  · rw [category?_apply_ne h e hse]
    simp [hse]

theorem source_of_find?_apply (e : Edit) (s : String) (m : Mapping)
    (hm : (t.apply e).find? s = some m) : m.source = s := by
  rw [find?_apply h] at hm
  split at hm
  · next hs =>
    obtain ⟨rfl, -⟩ := Edit.outcome_eq_some_iff.1 hm
    exact hs.symm
  · exact h.source_of_find? s m hm

theorem find?_blank_apply (e : Edit) : (t.apply e).find? "" = none := by
  rw [find?_apply h]
  split
  · next hs =>
    cases e with
    | upsert m => exact if_pos hs.symm
    | remove source => rfl
  · exact h.find?_blank

theorem Consistent.apply (e : Edit) : (t.apply e).Consistent where
  categories_nodup := by
    rw [categories_apply h]
    refine List.nodup_append.2 ⟨h.categories_nodup.filter _, Option.toList_nodup _, ?_⟩
    intro c hc c' hc' hcc
    subst hcc
    obtain ⟨-, hn⟩ := Option.mem_filter_iff.1 (Option.mem_toList.1 hc')
    exact absurd (List.mem_of_mem_filter hc) (of_decide_eq_true hn)
  sourcesIn_ne_nil c hc := by
    rw [categories_apply h, List.mem_append] at hc
    rcases hc with hc | hc
    · simpa using List.of_mem_filter hc
    · obtain ⟨hc, -⟩ := Option.mem_filter_iff.1 (Option.mem_toList.1 hc)
      exact List.ne_nil_of_mem ((mem_sourcesIn_apply h e c _).2 hc)
  sourcesIn_nodup c := by
    rw [sourcesIn_apply h]
    split
    · next hc =>
      refine List.nodup_append.2 ⟨(h.sourcesIn_nodup c).filter _, List.nodup_singleton _, ?_⟩
      intro s hs s' hs' hss
      rw [hss, List.mem_singleton.1 hs'] at hs
      exact hc.1 ((h.mem_sourcesIn c _).1 (List.mem_of_mem_filter hs))
    · rw [List.append_nil]
      exact (h.sourcesIn_nodup c).filter _
  mem_sourcesIn := mem_sourcesIn_apply h e
  source_of_find? := source_of_find?_apply h e
  find?_blank := find?_blank_apply h e

theorem Consistent.run (edits : List Edit) : (t.run edits).Consistent := by
  induction edits generalizing t with
  | nil => exact h
  | cons e es ih => exact ih (h.apply e)

/-! ## The views of a consistent table -/

theorem mem_sources {s : String} : s ∈ Listing.sources t.order ↔ ∃ m, t.find? s = some m := by
  rw [Listing.sources_eq_flatMap h.categories_nodup, List.mem_flatMap]
  constructor
  · rintro ⟨c, -, hs⟩
    obtain ⟨m, hm, -⟩ := Option.map_eq_some_iff.1 ((h.mem_sourcesIn c s).1 hs)
    exact ⟨m, hm⟩
  · rintro ⟨m, hm⟩
    have hs : s ∈ sourcesIn m.category t.order :=
      (h.mem_sourcesIn _ s).2 (Option.map_eq_some_iff.2 ⟨m, hm, rfl⟩)
    exact ⟨m.category, (mem_categories h).2 (List.ne_nil_of_mem hs), hs⟩

theorem sources_ne_nil {g : Group} (hg : g ∈ t.order) : g.sources ≠ [] := by
  rw [← Listing.sourcesIn_of_mem h.categories_nodup hg]
  exact h.sourcesIn_ne_nil _ (List.mem_map_of_mem hg)

theorem sources_nodup : (Listing.sources t.order).Nodup := by
  rw [Listing.sources_eq_flatMap h.categories_nodup, List.nodup_flatMap]
  refine ⟨fun c _ => h.sourcesIn_nodup c, h.categories_nodup.imp fun {c c'} hne s hs hs' => ?_⟩
  have hc := (h.mem_sourcesIn c s).1 hs
  have hc' := (h.mem_sourcesIn c' s).1 hs'
  exact hne (Option.some.inj (hc.symm.trans hc'))

/-- Listed mappings have the sources that they are listed by. -/
theorem map_source_filterMap {sources : List String} (hs : ∀ s ∈ sources, ∃ m, t.find? s = some m) :
    (sources.filterMap t.find?).map Mapping.source = sources := by
  induction sources with
  | nil => rfl
  | cons s ss ih =>
    obtain ⟨m, hm⟩ := hs s List.mem_cons_self
    rw [List.filterMap_cons_some hm, List.map_cons, h.source_of_find? s m hm,
      ih fun s' hs' => hs s' (List.mem_cons_of_mem s hs')]

theorem map_source_all : t.all.map Mapping.source = Listing.sources t.order :=
  map_source_filterMap h fun _ hs => (mem_sources h).1 hs

theorem nodup_source_all : (t.all.map Mapping.source).Nodup := map_source_all h ▸ sources_nodup h

theorem all_eq_flatMap : t.all = t.categories.flatMap t.entriesIn := by
  unfold all
  rw [Listing.sources_eq_flatMap h.categories_nodup, List.filterMap_flatMap]
  rfl

theorem find?_eq_some_iff {s : String} {m : Mapping} :
    t.find? s = some m ↔ m ∈ t.all ∧ m.source = s := by
  unfold all
  rw [List.mem_filterMap]
  constructor
  · intro hm
    exact ⟨⟨s, (mem_sources h).2 ⟨m, hm⟩, hm⟩, h.source_of_find? s m hm⟩
  · rintro ⟨⟨s', -, hm⟩, rfl⟩
    rwa [h.source_of_find? s' m hm]

theorem length_all : t.all.length = t.size := by
  have hperm : (Listing.sources t.order).Perm t.entries.keys :=
    (List.perm_ext_iff_of_nodup (sources_nodup h) Std.ExtTreeMap.nodup_keys).2 fun s => by
      rw [mem_sources h, Std.ExtTreeMap.mem_keys, Std.ExtTreeMap.mem_iff_isSome_getElem?,
        Option.isSome_iff_exists]
      rfl
  unfold size
  rw [← List.length_map Mapping.source, map_source_all h, hperm.length_eq,
    Std.ExtTreeMap.length_keys]

end Step

theorem consistent_run (edits : List Edit) : (empty.run edits).Consistent :=
  consistent_empty.run edits

/-- **The listing agrees with the mappings.** After any run of edits categories are distinct and none
is empty, each listed source is listed once and under the category of its own mapping, the listed
sources are those of the mappings, and every mapping has the source that it is found by. So the whole
list of mappings is that of the categories one after the other, it is as long as the table is large,
and looking a source up finds exactly the one with that source. -/
theorem run_listing_agrees (edits : List Edit) :
    let t := empty.run edits
    t.categories.Nodup ∧ (∀ g ∈ t.order, g.sources ≠ []) ∧
      (∀ g ∈ t.order, ∀ s ∈ g.sources, (Listing.sources t.order).count s = 1 ∧
        ∃ m, t.entries[s]? = some m ∧ m.category = g.category) ∧
      (∀ s, s ∈ Listing.sources t.order ↔ s ∈ t.entries) ∧
      (∀ s m, t.entries[s]? = some m → m.source = s ∧ s ≠ "") ∧
      t.all = t.categories.flatMap t.entriesIn ∧ t.all.length = t.size ∧
      (t.all.map Mapping.source).Nodup ∧
      ∀ s m, t.find? s = some m ↔ m ∈ t.all ∧ m.source = s := by
  intro t
  have h : t.Consistent := consistent_run edits
  have hgroup : ∀ g ∈ t.order, sourcesIn g.category t.order = g.sources := fun g hg =>
    Listing.sourcesIn_of_mem h.categories_nodup hg
  refine ⟨h.categories_nodup, ?_, ?_, ?_, ?_, all_eq_flatMap h, length_all h, ?_,
    fun s m => find?_eq_some_iff h⟩
  · intro g hg
    rw [← hgroup g hg]
    exact h.sourcesIn_ne_nil _ (List.mem_map_of_mem hg)
  · intro g hg s hs
    refine ⟨List.count_eq_one_of_mem (sources_nodup h) (List.mem_flatMap.2 ⟨g, hg, hs⟩), ?_⟩
    rw [← hgroup g hg] at hs
    exact Option.map_eq_some_iff.1 ((h.mem_sourcesIn _ s).1 hs)
  · intro s
    rw [mem_sources h, Std.ExtTreeMap.mem_iff_isSome_getElem?, Option.isSome_iff_exists]
    rfl
  · intro s m hm
    refine ⟨h.source_of_find? s m hm, ?_⟩
    rintro rfl
    exact nomatch h.find?_blank.symm.trans hm
  · rw [map_source_all h]
    exact sources_nodup h

end Table

end GlyphFold
