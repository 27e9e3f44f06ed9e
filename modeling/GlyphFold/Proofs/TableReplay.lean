import Mathlib.Data.List.Induction
import GlyphFold.Document
import GlyphFold.Proofs.TableInvariant

/-!
# Tables from their own listings

A table shows the outcome of all its edits. The flat list of its mappings is enough to make it again:
putting them into an empty table one after the other gives back the categories, the order of the
sources in each and the mappings.

1. `attachAll_order`: sources that enter an empty listing group by group leave those groups.
2. `order_ofMappings`, `find?_ofMappings`: what a list of mappings with different sources makes.
3. `ofMappings_all`: the mappings of a consistent table make that table.
4. `toTable_ofTable`: the same for the document that a table is written to, with what else stands in
   it.
-/

namespace GlyphFold

/-! ## Listings from their sources -/

namespace Listing

/-- Puts sources at the ends of their categories, one after the other. -/
def attachAll (gs : List Group) (entering : List (String × String)) : List Group :=
  entering.foldl (fun gs (category, source) => attach category source gs) gs

theorem attachAll_append (gs : List Group) (l l' : List (String × String)) :
    attachAll gs (l ++ l') = attachAll (attachAll gs l) l' := List.foldl_append

theorem attach_new {category : String} {gs : List Group} (h : category ∉ categories gs)
    (source : String) : attach category source gs = gs ++ [⟨category, [source]⟩] := by
  induction gs with
  | nil => rfl
  | cons g gs ih =>
    rw [categories_cons, List.mem_cons, not_or] at h
    rw [attach, if_neg (Ne.symm h.1), ih h.2, List.cons_append]

theorem attach_last {category : String} {gs : List Group} (h : category ∉ categories gs)
    (sources : List String) (source : String) :
    attach category source (gs ++ [⟨category, sources⟩]) =
      gs ++ [⟨category, sources ++ [source]⟩] := by
  induction gs with
  | nil => exact if_pos rfl
  | cons g gs ih =>
    rw [categories_cons, List.mem_cons, not_or] at h
    rw [List.cons_append, attach, if_neg (Ne.symm h.1), ih h.2, List.cons_append]

/-- The sources of a group with what they are listed under. -/
def entering (g : Group) : List (String × String) := g.sources.map (g.category, ·)

/-- The sources of one group enter as that group, after the groups of other categories. -/
theorem attachAll_group {g : Group} {gs : List Group} (hg : g.sources ≠ [])
    (h : g.category ∉ categories gs) : attachAll gs (entering g) = gs ++ [g] := by
  obtain ⟨category, sources⟩ := g
  induction sources using List.reverseRecOn with
  | nil => exact absurd rfl hg
  | append_singleton sources source ih =>
    have hsplit : entering ⟨category, sources ++ [source]⟩ =
        entering ⟨category, sources⟩ ++ [(category, source)] := List.map_append
    rw [hsplit, attachAll_append]
    by_cases hne : sources = []
    · subst hne
      exact attach_new h source
    · rw [ih hne h]
      exact attach_last h sources source

/-- The sources of a listing enter as its groups. -/
theorem attachAll_order {gs : List Group} (hne : ∀ g ∈ gs, g.sources ≠ [])
    (hgs : (categories gs).Nodup) : attachAll [] (gs.flatMap entering) = gs := by
  induction gs using List.reverseRecOn with
  | nil => rfl
  | append_singleton gs g ih =>
    have hcategories : categories (gs ++ [g]) = categories gs ++ [g.category] := List.map_append
    rw [hcategories, List.nodup_append] at hgs
    have hg : g.category ∉ categories gs := fun hc =>
      hgs.2.2 _ hc _ (List.mem_singleton_self _) rfl
    rw [List.flatMap_append, List.flatMap_singleton, attachAll_append,
      ih (fun g hg => hne g (List.mem_append_left _ hg)) hgs.1]
    exact attachAll_group (hne g (by simp)) hg

/-- A listing without empty groups names each category first where its group begins. -/
theorem distinct_entering {gs : List Group} (hne : ∀ g ∈ gs, g.sources ≠ [])
    (hgs : (categories gs).Nodup) :
    Table.distinct ((gs.flatMap entering).map Prod.fst) = categories gs := by
  induction gs with
  | nil => rfl
  | cons g gs ih =>
    rw [categories_cons, List.nodup_cons] at hgs
    obtain ⟨s, ss, hs⟩ := List.exists_cons_of_ne_nil (hne g List.mem_cons_self)
    have hown : ((ss.map (g.category, ·)).map Prod.fst).filter (· ≠ g.category) = [] := by
      simp
    have hrest : ((gs.flatMap entering).map Prod.fst).filter (· ≠ g.category) =
        (gs.flatMap entering).map Prod.fst := by
      refine List.filter_eq_self.2 fun c hc => decide_eq_true ?_
      rintro rfl
      obtain ⟨⟨c, s⟩, hcs, hc⟩ := List.mem_map.1 hc
      obtain ⟨g', hg', hmem⟩ := List.mem_flatMap.1 hcs
      obtain ⟨s', -, heq⟩ := List.mem_map.1 hmem
      refine hgs.1 (List.mem_map.2 ⟨g', hg', ?_⟩)
      exact (congrArg Prod.fst heq).trans hc
    rw [List.flatMap_cons, entering, hs, List.map_cons, List.cons_append, List.map_cons,
      List.map_append, Table.distinct, ← Table.distinct_filter, List.filter_append, hown, hrest,
      List.nil_append, ih (fun g hg => hne g (List.mem_cons_of_mem _ hg)) hgs.2]
    rfl

end Listing

namespace Table

/-! ## Tables from mappings with different sources -/

theorem upsert_of_new {t : Table} {m : Mapping} (hm : m.source ≠ "")
    (hnew : t.find? m.source = none) :
    (t.upsert m).2 =
      ⟨t.entries.insert m.source m, Listing.attach m.category m.source t.order⟩ := by
  unfold upsert
  rw [if_neg hm, hnew]

section Distinct

variable {ms : List Mapping} (hne : ∀ m ∈ ms, m.source ≠ "") (hms : (ms.map Mapping.source).Nodup)

include hne hms

/-- Mappings with different sources are all found, and their sources are listed as they come. -/
theorem ofMappings_distinct :
    (∀ s m, (ofMappings ms).find? s = some m ↔ m ∈ ms ∧ m.source = s) ∧
      (ofMappings ms).order = Listing.attachAll [] (ms.map fun m => (m.category, m.source)) := by
  induction ms using List.reverseRecOn with
  | nil => exact ⟨fun s m => by simp [ofMappings], rfl⟩
  | append_singleton ms new ih =>
    rw [List.map_append, List.nodup_append] at hms
    obtain ⟨hfind, horder⟩ := ih (fun m hm => hne m (List.mem_append_left _ hm)) hms.1
    have hother : ∀ m ∈ ms, m.source ≠ new.source := fun m hm =>
      hms.2.2 _ (List.mem_map_of_mem hm) _ (List.mem_singleton_self _)
    have hnew : (ofMappings ms).find? new.source = none :=
      Option.eq_none_iff_forall_ne_some.2 fun m hm =>
        hother m ((hfind _ _).1 hm).1 ((hfind _ _).1 hm).2
    have hstep : ofMappings (ms ++ [new]) =
        ⟨(ofMappings ms).entries.insert new.source new,
          Listing.attach new.category new.source (ofMappings ms).order⟩ :=
      (List.foldl_concat ..).trans (upsert_of_new (hne new (by simp)) hnew)
    refine ⟨fun s m => ?_, ?_⟩
    · rw [hstep, find?_insert, List.mem_append, List.mem_singleton]
      split
      · next hs =>
        subst hs
        constructor
        · rintro ⟨⟩
          exact ⟨.inr rfl, rfl⟩
        · rintro ⟨hm | rfl, hs⟩
          · exact absurd hs (hother m hm)
          · rfl
      · next hs =>
        rw [hfind]
        constructor
        · rintro ⟨hm, hsource⟩
          exact ⟨.inl hm, hsource⟩
        · rintro ⟨hm | rfl, rfl⟩
          · exact ⟨hm, rfl⟩
          · exact absurd rfl hs
    · rw [hstep, List.map_append, Listing.attachAll_append, ← horder]
      rfl

end Distinct

/-! ## Tables from their own mappings -/

section All

variable {t : Table} (h : t.Consistent)

include h

/-- The mappings come group by group, each under the category of its group. -/
theorem map_all_eq_entering :
    t.all.map (fun m => (m.category, m.source)) = t.order.flatMap Listing.entering := by
  have hgroup : ∀ g ∈ t.order, ∀ s ∈ g.sources,
      (t.find? s).map (fun m => (m.category, m.source)) = some (g.category, s) := by
    intro g hg s hs
    rw [← Listing.sourcesIn_of_mem h.categories_nodup hg] at hs
    obtain ⟨m, hm, hc⟩ := Option.map_eq_some_iff.1 ((h.mem_sourcesIn _ s).1 hs)
    rw [hm, Option.map_some, hc, h.source_of_find? s m hm]
  unfold all Listing.sources
  rw [List.map_filterMap, List.filterMap_flatMap]
  refine List.flatMap_congr fun g hg => ?_
  rw [List.filterMap_congr (hgroup g hg), Listing.entering, ← List.filterMap_eq_map]
  rfl

/-- A consistent table is made by its own mappings. -/
theorem ofMappings_all : ofMappings t.all = t := by
  have hne : ∀ m ∈ t.all, m.source ≠ "" := by
    intro m hm
    exact ne_blank_of_find? h ((find?_eq_some_iff h).2 ⟨hm, rfl⟩)
  obtain ⟨hfind, horder⟩ := ofMappings_distinct hne (nodup_source_all h)
  refine ext_find? (fun s => ?_) ?_
  · refine Option.ext fun m => ?_
    rw [hfind, find?_eq_some_iff h]
  · rw [horder, map_all_eq_entering h]
    exact Listing.attachAll_order (fun g hg => sources_ne_nil h hg) h.categories_nodup

/-- The categories are those of the mappings, by their first occurrences. -/
theorem categories_eq_distinct : t.categories = distinct (t.all.map Mapping.category) := by
  have hmap := congrArg (List.map Prod.fst) (map_all_eq_entering h)
  rw [List.map_map] at hmap
  refine Eq.symm ((congrArg distinct hmap).trans ?_)
  exact Listing.distinct_entering (fun g hg => sources_ne_nil h hg) h.categories_nodup

end All

end Table

/-- **Documents keep tables.** After any run of edits the table that is read from its own document is
that table, mappings, categories and orders alike. The document counts its mappings, which are as many
as the table has, and names their categories by first occurrence. So the list of its mappings alone
tells two tables apart. -/
theorem Document.toTable_ofTable (edits : List Table.Edit)
    (pluginVersion ideVersion exportDate : String) :
    let t := Table.empty.run edits
    let d := ofTable t pluginVersion ideVersion exportDate
    d.toTable = t ∧
      (d.metadata.mappingsCount = d.mappings.length ∧ d.mappings.length = t.size) ∧
      d.categories = Table.distinct (d.mappings.map Mapping.category) ∧
      ∀ others : List Table.Edit, t.all = (Table.empty.run others).all ↔
        t = Table.empty.run others := by
  intro t d
  have h : t.Consistent := Table.consistent_run edits
  refine ⟨Table.ofMappings_all h, ⟨rfl, Table.length_all h⟩, Table.categories_eq_distinct h,
    fun others => ⟨fun hall => ?_, congrArg Table.all⟩⟩
  calc t = .ofMappings t.all := (Table.ofMappings_all h).symm
    _ = .ofMappings (Table.empty.run others).all := congrArg _ hall
    _ = Table.empty.run others := Table.ofMappings_all (Table.consistent_run others)

end GlyphFold
