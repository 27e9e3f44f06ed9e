/-!
# Listings

The order in which a table lists its sources: by category, categories in the order in which they got
their first source, sources in the order in which they entered the category.

1. `sources`, `categories`, `sourcesIn`: the views of a listing
2. `attach`, `detach`: its two changes
3. `sourcesIn_attach`, `categories_attach`, `sourcesIn_detach`, `categories_detach`: what each change
   does to the views
-/

namespace GlyphFold

/-- A category and the sources listed under it. -/
structure Group where
  category : String
  sources : List String
  deriving DecidableEq, Repr

namespace Listing

/-! ## Views -/

/-- Every source, category by category. -/
def sources (gs : List Group) : List String := gs.flatMap Group.sources

def categories (gs : List Group) : List String := gs.map Group.category

/-- The sources under a category; none under one that is not listed. -/
def sourcesIn (category : String) (gs : List Group) : List String :=
  match gs.find? (·.category = category) with
  | some g => g.sources
  | none => []

@[simp] theorem categories_nil : categories [] = [] := rfl

@[simp] theorem categories_cons (g : Group) (gs : List Group) :
    categories (g :: gs) = g.category :: categories gs := rfl

@[simp] theorem sourcesIn_nil (category : String) : sourcesIn category [] = [] := rfl

theorem sourcesIn_cons (category : String) (g : Group) (gs : List Group) :
    sourcesIn category (g :: gs) =
      if g.category = category then g.sources else sourcesIn category gs := by
  unfold sourcesIn
  rw [List.find?_cons]
  by_cases h : g.category = category <;> simp [h]

theorem sourcesIn_eq_nil {category : String} {gs : List Group} (h : category ∉ categories gs) :
    sourcesIn category gs = [] := by
  induction gs with
  | nil => rfl
  | cons g gs ih =>
    rw [categories_cons, List.mem_cons, not_or] at h
    rw [sourcesIn_cons, if_neg (Ne.symm h.1), ih h.2]

/-- A group of a listing without repeated categories is what its category gives. -/
theorem sourcesIn_of_mem {gs : List Group} (hgs : (categories gs).Nodup) {g : Group} (hg : g ∈ gs) :
    sourcesIn g.category gs = g.sources := by
  induction gs with
  | nil => cases hg
  | cons g' gs ih =>
    rw [categories_cons, List.nodup_cons] at hgs
    rw [sourcesIn_cons]
    rcases List.mem_cons.1 hg with rfl | hg
    · rw [if_pos rfl]
    · have hne : g'.category ≠ g.category := fun e => hgs.1 (e ▸ List.mem_map_of_mem hg)
      rw [if_neg hne, ih hgs.2 hg]

/-- The listing goes through its categories and gives the sources of each. -/
theorem sources_eq_flatMap {gs : List Group} (hgs : (categories gs).Nodup) :
    sources gs = (categories gs).flatMap fun c => sourcesIn c gs := by
  unfold sources categories
  rw [List.flatMap_map, List.flatMap_def, List.flatMap_def]
  exact congrArg List.flatten (List.map_congr_left fun g hg => (sourcesIn_of_mem hgs hg).symm)

/-! ## Changes -/

/-- Puts a source at the end of a category, which comes last if it is new. -/
def attach (category source : String) : List Group → List Group
  | [] => [⟨category, [source]⟩]
  | g :: gs =>
    if g.category = category then ⟨g.category, g.sources ++ [source]⟩ :: gs
    else g :: attach category source gs

/-- Takes a source out of a category, and the category with its last source. -/
def detach (category source : String) : List Group → List Group
  | [] => []
  | g :: gs =>
    if g.category = category then
      match g.sources.filter (· ≠ source) with
      | [] => gs
      | s :: ss => ⟨g.category, s :: ss⟩ :: gs
    else g :: detach category source gs

theorem sourcesIn_attach (category source other : String) (gs : List Group) :
    sourcesIn other (attach category source gs) =
      if other = category then sourcesIn category gs ++ [source] else sourcesIn other gs := by
  induction gs with
  | nil =>
    rw [attach, sourcesIn_cons]
    by_cases h : other = category
    · simp [h]
    · simp [h, Ne.symm h]
  | cons g gs ih =>
    rw [attach]
    by_cases hg : g.category = category
    · rw [if_pos hg, sourcesIn_cons, sourcesIn_cons, sourcesIn_cons]
      by_cases h : other = category
      · simp [h, hg]
      · have hne : g.category ≠ other := fun e => h (e.symm.trans hg)
        simp [h, hne]
    · rw [if_neg hg, sourcesIn_cons, ih, sourcesIn_cons, sourcesIn_cons, if_neg hg]
      by_cases h : other = category
      · rw [if_pos h, if_pos h, if_neg fun e => hg (e.trans h)]
      · rw [if_neg h, if_neg h]

theorem categories_attach (category source : String) (gs : List Group) :
    categories (attach category source gs) =
      if category ∈ categories gs then categories gs else categories gs ++ [category] := by
  induction gs with
  | nil => rfl
  | cons g gs ih =>
    rw [attach, categories_cons]
    by_cases hg : g.category = category
    · simp [hg]
    · rw [if_neg hg, categories_cons, ih]
      by_cases h : category ∈ categories gs
      · rw [if_pos h, if_pos (List.mem_cons_of_mem _ h)]
      · rw [if_neg h, if_neg (by simp [Ne.symm hg, h]), List.cons_append]

/-- The group that loses a source goes with its last one. -/
theorem detach_cons_self (g : Group) (gs : List Group) (source : String) :
    detach g.category source (g :: gs) =
      if g.sources.filter (· ≠ source) = [] then gs
      else ⟨g.category, g.sources.filter (· ≠ source)⟩ :: gs := by
  rw [detach, if_pos rfl]
  split
  · next h => rw [if_pos h]
  · next h => rw [h, if_neg (List.cons_ne_nil _ _)]

theorem detach_cons_ne {category : String} {g : Group} (h : g.category ≠ category) (source : String)
    (gs : List Group) : detach category source (g :: gs) = g :: detach category source gs := by
  rw [detach, if_neg h]

theorem sourcesIn_detach {gs : List Group} (hgs : (categories gs).Nodup)
    (category source other : String) :
    sourcesIn other (detach category source gs) =
      if other = category then (sourcesIn category gs).filter (· ≠ source)
      else sourcesIn other gs := by
  induction gs with
  | nil => simp [detach]
  | cons g gs ih =>
    rw [categories_cons, List.nodup_cons] at hgs
    by_cases hg : g.category = category
    · subst hg
      rw [detach_cons_self, sourcesIn_cons, sourcesIn_cons, if_pos rfl]
      by_cases h : other = g.category
      · subst h
        rw [if_pos rfl]
        split
        · next he => rw [he, sourcesIn_eq_nil hgs.1]
        · rw [sourcesIn_cons, if_pos rfl]
      · rw [if_neg h, if_neg (Ne.symm h)]
        split
        · rfl
        · rw [sourcesIn_cons, if_neg (Ne.symm h)]
    · rw [detach_cons_ne hg, sourcesIn_cons, sourcesIn_cons, sourcesIn_cons, if_neg hg, ih hgs.2]
      by_cases h : other = category
      · rw [if_pos h, if_pos h, if_neg fun e => hg (e.trans h)]
      · rw [if_neg h, if_neg h]

theorem categories_detach {gs : List Group} (hgs : (categories gs).Nodup)
    (category source : String) :
    categories (detach category source gs) =
      if (sourcesIn category gs).filter (· ≠ source) = []
      then (categories gs).filter (· ≠ category) else categories gs := by
  induction gs with
  | nil => simp [detach]
  | cons g gs ih =>
    rw [categories_cons, List.nodup_cons] at hgs
    by_cases hg : g.category = category
    · subst hg
      have hrest : (categories gs).filter (· ≠ g.category) = categories gs :=
        List.filter_eq_self.2 fun c hc => by
          simpa using fun e : c = g.category => hgs.1 (e ▸ hc)
      rw [detach_cons_self, sourcesIn_cons, if_pos rfl, categories_cons]
      split
      · rw [List.filter_cons_of_neg (by simp), hrest]
      · rfl
    · rw [detach_cons_ne hg, categories_cons, categories_cons, sourcesIn_cons, if_neg hg, ih hgs.2]
      split
      · rw [List.filter_cons_of_pos (by simpa using hg)]
      · rfl

end Listing

end GlyphFold
