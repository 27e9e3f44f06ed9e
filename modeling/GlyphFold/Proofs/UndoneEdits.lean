import GlyphFold.Proofs.TableInvariant

/-!
# Undone edits

An edit is undone by the edit that puts back what its source had before: the mapping that was there,
or none. The mappings are then what they were. In the listing only the source itself can end up in
another place, and it does so only if it went to another category and came back.

1. `Listing.detach_attach`: a source that enters a category and leaves it again leaves no trace, not
   even if the category was new
2. `Listing.filter_sources_move`: a move leaves the order of all other sources alone
3. `restore`, and the table after an edit and its undoing (`find?_restored`, `order_restored`)
4. `upsert_undone`: what becomes of a table whose edit is undone, case by case
-/

namespace GlyphFold

/-! ## Listings -/

namespace Listing

theorem sources_cons (g : Group) (gs : List Group) :
    sources (g :: gs) = g.sources ++ sources gs := List.flatMap_cons

/-- A source that is not listed under a category may enter and leave it. -/
theorem detach_attach {category source : String} {gs : List Group}
    (hne : ∀ g ∈ gs, g.sources ≠ []) (hnew : source ∉ sourcesIn category gs) :
    detach category source (attach category source gs) = gs := by
  induction gs with
  | nil => simp [attach, detach]
  | cons g gs ih =>
    rw [sourcesIn_cons] at hnew
    rw [attach]
    by_cases hg : g.category = category
    · subst hg
      rw [if_pos rfl] at hnew
      have hold : (g.sources ++ [source]).filter (· ≠ source) = g.sources := by
        have hkept : g.sources.filter (· ≠ source) = g.sources :=
          List.filter_eq_self.2 fun s hs => decide_eq_true fun e => hnew (e ▸ hs)
        rw [List.filter_append, hkept]
        simp
      rw [if_pos rfl]
      -- The group had sources before, so it does not go when the new one leaves it.
      show detach (Group.mk g.category (g.sources ++ [source])).category source _ = _
      rw [detach_cons_self, hold, if_neg (hne g List.mem_cons_self)]
    · rw [if_neg hg] at hnew
      rw [if_neg hg, detach_cons_ne hg, ih (fun g' hg' => hne g' (List.mem_cons_of_mem g hg')) hnew]

theorem filter_sources_attach (category source : String) (gs : List Group) :
    (sources (attach category source gs)).filter (· ≠ source) =
      (sources gs).filter (· ≠ source) := by
  induction gs with
  | nil => simp [attach, sources]
  | cons g gs ih =>
    rw [attach]
    split
    · simp [sources_cons]
    · rw [sources_cons, sources_cons, List.filter_append, List.filter_append, ih]

theorem filter_sources_detach (category source : String) (gs : List Group) :
    (sources (detach category source gs)).filter (· ≠ source) =
      (sources gs).filter (· ≠ source) := by
  induction gs with
  | nil => rfl
  | cons g gs ih =>
    by_cases hg : g.category = category
    · subst hg
      rw [detach_cons_self, sources_cons, List.filter_append]
      split
      · next hnone => rw [hnone, List.nil_append]
      · rw [sources_cons, List.filter_append, List.filter_filter]
        simp
    · rw [detach_cons_ne hg, sources_cons, sources_cons, List.filter_append, List.filter_append, ih]

/-- Other sources keep their order when one is moved. -/
theorem filter_sources_move (source : String) (before after : Option String) (gs : List Group) :
    (sources (move source before after gs)).filter (· ≠ source) =
      (sources gs).filter (· ≠ source) := by
  unfold move
  split
  · rfl
  · have hdetach : (sources (before.elim gs fun c => detach c source gs)).filter (· ≠ source) =
        (sources gs).filter (· ≠ source) := by
      cases before with
      | none => rfl
      | some c => exact filter_sources_detach c source gs
    cases after with
    | none => exact hdetach
    | some c => exact (filter_sources_attach c source _).trans hdetach

end Listing

/-! ## Edits that put back -/

namespace Table

/-- The edit that leaves under a source what the table has under it. -/
def restore (t : Table) (source : String) : Edit :=
  match t.find? source with
  | none => .remove source
  | some old => .upsert old

theorem restore_of_none {t : Table} {source : String} (h : t.find? source = none) :
    t.restore source = .remove source := by
  unfold restore
  rw [h]

theorem restore_of_some {t : Table} {source : String} {old : Mapping}
    (h : t.find? source = some old) : t.restore source = .upsert old := by
  unfold restore
  rw [h]

section Restored

variable {t : Table} (h : t.Consistent)

include h

theorem source_restore (source : String) : (t.restore source).source = source := by
  cases hold : t.find? source with
  | none => rw [restore_of_none hold]; rfl
  | some old =>
    rw [restore_of_some hold]
    exact h.source_of_find? source old hold

theorem outcome_restore (source : String) : (t.restore source).outcome = t.find? source := by
  cases hold : t.find? source with
  | none => rw [restore_of_none hold]; rfl
  | some old =>
    rw [restore_of_some hold, Edit.outcome_eq_some_iff]
    refine ⟨rfl, ?_⟩
    rw [h.source_of_find? source old hold]
    exact ne_blank_of_find? h hold

/-- What a source has after an edit and its undoing is what it had. -/
theorem find?_restored (e : Edit) (s : String) :
    ((t.apply e).apply (t.restore e.source)).find? s = t.find? s := by
  rw [find?_apply (h.apply e), source_restore h, outcome_restore h, find?_apply h]
  split
  · next hs => rw [hs]
  · rfl

/-- An edit moves its source in the listing, and undoing it moves the source back. -/
theorem order_restored (e : Edit) :
    ((t.apply e).apply (t.restore e.source)).order =
      Listing.move e.source ((t.apply e).category? e.source) (t.category? e.source)
        (Listing.move e.source (t.category? e.source) ((t.apply e).category? e.source)
          t.order) := by
  have hback : ((t.apply e).apply (t.restore e.source)).category? e.source =
      t.category? e.source := by
    unfold category?
    rw [find?_restored h]
  rw [order_apply (h.apply e), source_restore h, hback, order_apply h]

/-- A source that was not in the table goes without a trace. -/
theorem restored_of_new {e : Edit} (hnone : t.find? e.source = none) :
    (t.apply e).apply (t.restore e.source) = t := by
  have hbefore : t.category? e.source = none := by
    unfold category?
    rw [hnone, Option.map_none]
  refine ext_find? (find?_restored h e) ?_
  rw [order_restored h, hbefore]
  cases (t.apply e).category? e.source with
  | none => rw [Listing.move_of_eq rfl, Listing.move_of_eq rfl]
  | some c =>
    have hnew : e.source ∉ Listing.sourcesIn c t.order := by
      rw [h.mem_sourcesIn, hbefore]
      exact nofun
    show Listing.detach c e.source (Listing.attach c e.source t.order) = t.order
    exact Listing.detach_attach (fun g hg => sources_ne_nil h hg) hnew

/-- A source that keeps its category keeps its place. -/
theorem restored_of_category {e : Edit}
    (hsame : t.category? e.source = (t.apply e).category? e.source) :
    (t.apply e).apply (t.restore e.source) = t := by
  refine ext_find? (find?_restored h e) ?_
  rw [order_restored h, Listing.move_of_eq hsame, Listing.move_of_eq hsame.symm]

/-- The mappings of other sources are listed in the order of these. -/
theorem filter_all (source : String) :
    t.all.filter (·.source ≠ source) =
      ((Listing.sources t.order).filter (· ≠ source)).filterMap t.find? := by
  unfold all
  rw [List.filter_filterMap, List.filterMap_filter]
  refine List.filterMap_congr fun s _ => ?_
  cases hm : t.find? s with
  | none => simp
  | some m =>
    rw [← h.source_of_find? s m hm]
    rfl

/-- Undoing an edit leaves the mappings of other sources in their order. -/
theorem filter_all_restored (e : Edit) :
    ((t.apply e).apply (t.restore e.source)).all.filter (·.source ≠ e.source) =
      t.all.filter (·.source ≠ e.source) := by
  rw [filter_all ((h.apply e).apply _), filter_all h, funext (find?_restored h e), order_restored h,
    Listing.filter_sources_move, Listing.filter_sources_move]

end Restored

/-- **Edits are undone.** Putting a mapping into a table, whatever edits made it, is undone by
removing the mapping if its source was not in the table, and by putting the former mapping in again
if it was. The table is then the one before, categories and orders included, unless the two mappings
have different categories. In this case every source is found with what it had, and the mappings of
all other sources are listed in the same order. -/
theorem upsert_undone (edits : List Edit) (m : Mapping) :
    let t := empty.run edits
    let t' := (t.upsert m).2
    (t.find? m.source = none → (t'.remove m.source).2 = t) ∧
    ∀ old, t.find? m.source = some old →
      (old.category = m.category → (t'.upsert old).2 = t) ∧
      (old.category ≠ m.category → (∀ s, (t'.upsert old).2.find? s = t.find? s) ∧
        (t'.upsert old).2.all.filter (·.source ≠ m.source) =
          t.all.filter (·.source ≠ m.source)) := by
  intro t t'
  have h : t.Consistent := consistent_run edits
  constructor
  · intro hnone
    have hback := restored_of_new h (e := .upsert m) hnone
    rwa [show t.restore (Edit.upsert m).source = .remove m.source from restore_of_none hnone]
      at hback
  · intro old hold
    have hrestore : t.restore (Edit.upsert m).source = .upsert old := restore_of_some hold
    constructor
    · intro hcategory
      have hsame : t.category? m.source = t'.category? m.source := by
        show (t.find? m.source).map _ = (t'.find? m.source).map _
        rw [find?_upsert h (ne_blank_of_find? h hold), if_pos rfl, hold, Option.map_some,
          Option.map_some, hcategory]
      have hback := restored_of_category h (e := .upsert m) hsame
      rwa [hrestore] at hback
    · intro _
      have hfind := find?_restored h (.upsert m)
      have hall := filter_all_restored h (.upsert m)
      rw [hrestore] at hfind hall
      exact ⟨hfind, hall⟩

/-- A source that goes to another category and comes back is the last one of its own. -/
example :
    let t := ofMappings [⟨"<", "‹", "Order", .always⟩, ⟨"<=", "≤", "Order", .always⟩]
    let t' := ((t.upsert ⟨"<", "‹", "Angle", .always⟩).2.upsert ⟨"<", "‹", "Order", .always⟩).2
    Listing.sources t.order = ["<", "<="] ∧ Listing.sources t'.order = ["<=", "<"] := by
  decide +kernel

end Table

end GlyphFold
