import Mathlib.Algebra.GroupWithZero.Nat
import Mathlib.Data.List.Induction
import GlyphFold.Report

/-!
# The counts of a report

What the counts say of the files that they were taken over. They are taken file by file and fold by
fold, and say the same of the files in any order.

1. `GlyphCounts.lookup_ofGlyphs`, `Ordered.ext`: the counts of a list of glyphs, and when counts of
   glyphs are equal
2. `Stats.addFile_eq`, `Stats.ofFiles_eq`: what one file adds to each count, and what a run over files
   leaves in it
3. `Stats.ofFiles_congr`, `Stats.isSum_append`: files in another order, and two lists of files
4. `Stats.ofFiles_counts`: the counts of a report
-/

namespace GlyphFold

/-! ## Glyphs -/

namespace GlyphCounts

/-- The glyphs stand in increasing order, each of them once. -/
def Ordered (c : GlyphCounts) : Prop := (c.map Prod.fst).Pairwise (· < ·)

/-- How often a glyph is shown. -/
def shown (c : GlyphCounts) (glyph : String) : Nat := (c.lookup glyph).getD 0

/-- The counts of a list of glyphs. -/
def ofGlyphs (glyphs : List String) : GlyphCounts := glyphs.foldl (fun c g => c.add g 1) []

variable {c : GlyphCounts} {glyph g : String} {n : Nat}

theorem mem_glyphs_add :
    g ∈ (c.add glyph n).map Prod.fst ↔ g = glyph ∨ g ∈ c.map Prod.fst := by
  induction c with
  | nil => simp [add]
  | cons entry rest ih =>
    obtain ⟨k, m⟩ := entry
    unfold add
    split
    · simp only [List.map_cons, List.mem_cons]
    · split
      · next h => simp only [h, List.map_cons, List.mem_cons, ← or_assoc, or_self]
      · simp only [List.map_cons, List.mem_cons, ih, or_left_comm]

theorem Ordered.add (hc : c.Ordered) : Ordered (c.add glyph n) := by
  induction c with
  | nil => exact List.pairwise_singleton _ _
  | cons entry rest ih =>
    obtain ⟨k, m⟩ := entry
    obtain ⟨hk, hrest⟩ := List.pairwise_cons.1 hc
    unfold GlyphCounts.add
    split
    · next hlt =>
      refine List.pairwise_cons.2 ⟨fun g hg => ?_, hc⟩
      rcases List.mem_cons.1 hg with rfl | hg
      · exact hlt
      · exact String.lt_trans hlt (hk g hg)
    · next hge =>
      split
      · exact hc
      · next hne =>
        refine List.pairwise_cons.2 ⟨fun g hg => ?_, ih hrest⟩
        rcases mem_glyphs_add.1 hg with rfl | hg
        · exact String.not_le.1 fun hle => hne (String.le_antisymm hle hge)
        · exact hk g hg

theorem lookup_cons (k : String) (m : Nat) :
    List.lookup g ((k, m) :: c) = if g = k then some m else c.lookup g := by
  rw [List.lookup_cons]
  by_cases h : g = k
  · rw [if_pos h, beq_iff_eq.2 h]
  · rw [if_neg h, beq_eq_false_iff_ne.2 h]

theorem lookup_of_not_mem (h : g ∉ c.map Prod.fst) : c.lookup g = none :=
  List.lookup_eq_none_iff.2 fun _ hentry =>
    bne_iff_ne.2 fun heq => h (heq ▸ List.mem_map_of_mem hentry)

/-- A glyph before the first one has no entry. -/
theorem Ordered.lookup_eq_none {k : String} {m : Nat} (hc : Ordered ((k, m) :: c)) (h : g < k) :
    List.lookup g ((k, m) :: c) = none := by
  refine lookup_of_not_mem fun hg => ?_
  rcases List.mem_cons.1 hg with rfl | hg
  · exact String.lt_irrefl _ h
  · exact String.lt_irrefl _ (String.lt_trans h ((List.pairwise_cons.1 hc).1 g hg))

/-- Only the count of the glyph that is added changes. -/
theorem lookup_add (hc : c.Ordered) :
    (c.add glyph n).lookup g = if g = glyph then some (c.shown glyph + n) else c.lookup g := by
  induction c with
  | nil => rw [add, lookup_cons, shown, List.lookup_nil, List.lookup_nil, Option.getD_none, Nat.zero_add]
  | cons entry rest ih =>
    obtain ⟨k, m⟩ := entry
    obtain ⟨hk, hrest⟩ := List.pairwise_cons.1 hc
    unfold add
    split
    · next hlt =>
      rw [lookup_cons, shown, hc.lookup_eq_none hlt, Option.getD_none, Nat.zero_add]
    · split
      · next h =>
        subst h
        rw [lookup_cons, lookup_cons, shown, lookup_cons, if_pos rfl, Option.getD_some]
        split <;> rfl
      · next hne =>
        rw [lookup_cons, ih hrest, lookup_cons, shown, shown, lookup_cons, if_neg hne]
        by_cases h : g = k
        · rw [if_pos h, if_neg (fun heq => hne (heq.symm.trans h)), if_pos h]
        · rw [if_neg h, if_neg h]

theorem sum_add : ((c.add glyph n).map Prod.snd).sum = (c.map Prod.snd).sum + n := by
  induction c with
  | nil => simp [add]
  | cons entry rest ih =>
    obtain ⟨k, m⟩ := entry
    unfold add
    split
    · simp only [List.map_cons, List.sum_cons]
      omega
    · split
      · simp only [List.map_cons, List.sum_cons]
        omega
      · simp only [List.map_cons, List.sum_cons, ih]
        omega

/-! ### Counts of a list -/

theorem ofGlyphs_append (glyphs : List String) (glyph : String) :
    ofGlyphs (glyphs ++ [glyph]) = (ofGlyphs glyphs).add glyph 1 :=
  List.foldl_append ..

theorem ordered_ofGlyphs (glyphs : List String) : Ordered (ofGlyphs glyphs) := by
  induction glyphs using List.reverseRecOn with
  | nil => exact List.Pairwise.nil
  | append_singleton glyphs glyph ih =>
    rw [ofGlyphs_append]
    exact ih.add

/-- A glyph has an entry if it is in the list, and the entry says how often. -/
theorem lookup_ofGlyphs (glyphs : List String) (g : String) :
    (ofGlyphs glyphs).lookup g = if glyphs.count g = 0 then none else some (glyphs.count g) := by
  induction glyphs using List.reverseRecOn with
  | nil => rfl
  | append_singleton glyphs glyph ih =>
    rw [ofGlyphs_append, lookup_add (ordered_ofGlyphs glyphs), List.count_append,
      List.count_singleton]
    by_cases h : g = glyph
    · subst h
      rw [if_pos rfl, beq_self_eq_true, if_pos rfl, if_neg (Nat.succ_ne_zero _), shown, ih]
      split <;> simp_all
    · rw [if_neg h, ih, beq_eq_false_iff_ne.2 (Ne.symm h)]
      rfl

theorem lookup_ofGlyphs_isSome (glyphs : List String) (g : String) :
    ((ofGlyphs glyphs).lookup g).isSome ↔ g ∈ glyphs := by
  rw [lookup_ofGlyphs, ← List.count_pos_iff, Nat.pos_iff_ne_zero]
  split <;> simp_all

theorem of_lookup_ofGlyphs {glyphs : List String} {g : String} {n : Nat}
    (h : (ofGlyphs glyphs).lookup g = some n) : n ≠ 0 ∧ n = glyphs.count g := by
  rw [lookup_ofGlyphs] at h
  split at h
  · cases h
  · next hne =>
    cases h
    exact ⟨hne, rfl⟩

theorem shown_ofGlyphs (glyphs : List String) (g : String) :
    shown (ofGlyphs glyphs) g = glyphs.count g := by
  rw [shown, lookup_ofGlyphs]
  split
  · next h => rw [h]; rfl
  · rfl

theorem sum_ofGlyphs (glyphs : List String) :
    ((ofGlyphs glyphs).map Prod.snd).sum = glyphs.length := by
  induction glyphs using List.reverseRecOn with
  | nil => rfl
  | append_singleton glyphs glyph ih =>
    rw [ofGlyphs_append, sum_add, ih, List.length_append, List.length_singleton]

/-- Ordered counts are told apart by what they say of single glyphs. -/
theorem Ordered.ext {c c' : GlyphCounts} (hc : c.Ordered) (hc' : c'.Ordered)
    (h : ∀ g, c.lookup g = c'.lookup g) : c = c' := by
  induction c generalizing c' with
  | nil =>
    cases c' with
    | nil => rfl
    | cons entry' rest' =>
      have hfirst := h entry'.1
      rw [List.lookup_cons_self] at hfirst
      cases hfirst
  | cons entry rest ih =>
    obtain ⟨k, m⟩ := entry
    have hfirst := h k
    rw [List.lookup_cons_self] at hfirst
    cases c' with
    | nil => cases hfirst
    | cons entry' rest' =>
      obtain ⟨k', m'⟩ := entry'
      have hfirst' := h k'
      rw [List.lookup_cons_self] at hfirst'
      have hle : k' ≤ k := fun hlt => nomatch hfirst.trans (hc'.lookup_eq_none hlt)
      have hge : k ≤ k' := fun hlt => nomatch hfirst'.symm.trans (hc.lookup_eq_none hlt)
      obtain rfl := String.le_antisymm hge hle
      rw [List.lookup_cons_self] at hfirst
      obtain rfl := Option.some.inj hfirst
      obtain ⟨hk, hrest⟩ := List.pairwise_cons.1 hc
      obtain ⟨hk', hrest'⟩ := List.pairwise_cons.1 hc'
      refine congrArg _ (ih hrest hrest' fun g => ?_)
      by_cases hg : g = k
      · subst hg
        rw [lookup_of_not_mem fun hmem => String.lt_irrefl g (hk g hmem),
          lookup_of_not_mem fun hmem => String.lt_irrefl g (hk' g hmem)]
      · have hboth := h g
        rwa [lookup_cons, lookup_cons, if_neg hg, if_neg hg] at hboth

theorem ofGlyphs_perm {glyphs glyphs' : List String} (h : glyphs.Perm glyphs') :
    ofGlyphs glyphs = ofGlyphs glyphs' := by
  refine (ordered_ofGlyphs glyphs).ext (ordered_ofGlyphs glyphs') fun g => ?_
  rw [lookup_ofGlyphs, lookup_ofGlyphs, h.count_eq]

end GlyphCounts

/-! ## Runs over files -/

/-- The placeholders of the folds of some files. -/
def placeholders (files : List SourceFile) : List String :=
  (files.flatMap (·.folds)).map (·.region.placeholder)

theorem count_placeholders (files : List SourceFile) (g : String) :
    (placeholders files).count g =
      (files.flatMap (·.folds)).countP fun fold => fold.region.placeholder = g := by
  rw [placeholders, List.count, List.countP_map]
  rfl

theorem mem_placeholders {files : List SourceFile} {g : String} :
    g ∈ placeholders files ↔ ∃ file ∈ files, ∃ fold ∈ file.folds, fold.region.placeholder = g := by
  rw [placeholders, List.mem_map]
  constructor
  · rintro ⟨fold, hfold, rfl⟩
    obtain ⟨file, hfile, hfold⟩ := List.mem_flatMap.1 hfold
    exact ⟨file, hfile, fold, hfold, rfl⟩
  · rintro ⟨file, hfile, fold, hfold, rfl⟩
    exact ⟨fold, List.mem_flatMap.2 ⟨file, hfile, hfold⟩, rfl⟩

theorem length_placeholders (files : List SourceFile) :
    (placeholders files).length = (files.map (·.folds.length)).sum := by
  rw [placeholders, List.length_map, List.length_flatMap]

theorem placeholders_append (files more : List SourceFile) :
    placeholders (files ++ more) = placeholders files ++ placeholders more := by
  rw [placeholders, List.flatMap_append, List.map_append]
  rfl

namespace Stats

theorem foldl_addFold (s : Stats) (folds : List Fold) :
    folds.foldl (fun s fold => s.addFold fold.region) s =
      { s with
        totalFolds := s.totalFolds + folds.length
        glyphs := (folds.map (·.region.placeholder)).foldl (fun c g => c.add g 1) s.glyphs } := by
  induction folds generalizing s with
  | nil => rfl
  | cons fold folds ih =>
    rw [List.foldl_cons, ih, addFold]
    simp only [List.length_cons, List.map_cons, List.foldl_cons, Nat.add_assoc, Nat.add_comm 1]

/-- What one file adds to each count. -/
theorem addFile_eq (s : Stats) (f : SourceFile) :
    s.addFile f =
      { totalFiles := s.totalFiles + 1
        failedFiles := s.failedFiles + if f.parsed then 0 else 1
        totalFolds := s.totalFolds + f.folds.length
        pythonFiles := s.pythonFiles + if f.language = .python then 1 else 0
        javascriptFiles := s.javascriptFiles + if f.language = .javascript then 1 else 0
        typescriptFiles := s.typescriptFiles + if f.language = .typescript then 1 else 0
        totalLines := s.totalLines + f.lineCount
        glyphs := (f.folds.map (·.region.placeholder)).foldl (fun c g => c.add g 1) s.glyphs } := by
  unfold addFile
  rw [foldl_addFold]
  cases f.language <;> rfl

/-- What a run over files leaves in each count. -/
theorem ofFiles_eq (files : List SourceFile) :
    ofFiles files =
      { totalFiles := files.length
        failedFiles := files.countP (!·.parsed)
        totalFolds := (files.map (·.folds.length)).sum
        pythonFiles := files.countP (·.language = .python)
        javascriptFiles := files.countP (·.language = .javascript)
        typescriptFiles := files.countP (·.language = .typescript)
        totalLines := (files.map (·.lineCount)).sum
        glyphs := .ofGlyphs (placeholders files) } := by
  induction files using List.reverseRecOn with
  | nil => rfl
  | append_singleton files f ih =>
    have hstep : ofFiles (files ++ [f]) = (ofFiles files).addFile f := List.foldl_append ..
    rw [hstep, ih, addFile_eq]
    simp [List.countP_append, placeholders, GlyphCounts.ofGlyphs, List.countP_singleton]
    cases f.parsed <;> rfl

/-- Every file is in one language. -/
theorem length_eq_languages (files : List SourceFile) :
    files.length = files.countP (·.language = .python) + files.countP (·.language = .javascript) +
      files.countP (·.language = .typescript) := by
  induction files with
  | nil => rfl
  | cons f files ih =>
    simp only [List.length_cons, List.countP_cons, ih]
    cases f.language <;> simp <;> omega

/-- The counts of files do not depend on their order. -/
theorem ofFiles_congr {files files' : List SourceFile} (h : files.Perm files') :
    ofFiles files = ofFiles files' := by
  have hglyphs : GlyphCounts.ofGlyphs (placeholders files) = .ofGlyphs (placeholders files') :=
    GlyphCounts.ofGlyphs_perm ((h.flatMap_right _).map _)
  have hfolds : (files.map (·.folds.length)).sum = (files'.map (·.folds.length)).sum :=
    (h.map _).sum_nat
  have hlines : (files.map (·.lineCount)).sum = (files'.map (·.lineCount)).sum :=
    (h.map _).sum_nat
  rw [ofFiles_eq, ofFiles_eq, h.length_eq, h.countP_eq, h.countP_eq, h.countP_eq, h.countP_eq,
    hglyphs, hfolds, hlines]

/-- Each count is the sum of two others, and so is the count of each glyph. -/
structure IsSum (s a b : Stats) : Prop where
  totalFiles : s.totalFiles = a.totalFiles + b.totalFiles
  failedFiles : s.failedFiles = a.failedFiles + b.failedFiles
  totalFolds : s.totalFolds = a.totalFolds + b.totalFolds
  pythonFiles : s.pythonFiles = a.pythonFiles + b.pythonFiles
  javascriptFiles : s.javascriptFiles = a.javascriptFiles + b.javascriptFiles
  typescriptFiles : s.typescriptFiles = a.typescriptFiles + b.typescriptFiles
  totalLines : s.totalLines = a.totalLines + b.totalLines
  glyphs : ∀ g, s.glyphs.shown g = a.glyphs.shown g + b.glyphs.shown g

theorem isSum_append (files more : List SourceFile) :
    (ofFiles (files ++ more)).IsSum (ofFiles files) (ofFiles more) := by
  rw [ofFiles_eq, ofFiles_eq, ofFiles_eq]
  exact
    { totalFiles := List.length_append
      failedFiles := List.countP_append
      totalFolds := by simp only [List.map_append, List.sum_append_nat]
      pythonFiles := List.countP_append
      javascriptFiles := List.countP_append
      typescriptFiles := List.countP_append
      totalLines := by simp only [List.map_append, List.sum_append_nat]
      glyphs := fun g => by
        rw [GlyphCounts.shown_ofGlyphs, GlyphCounts.shown_ofGlyphs, GlyphCounts.shown_ofGlyphs,
          placeholders_append, List.count_append] }

/-- **What the counts of a report say.** Every file is counted once, under its language, and as failed
if it is; the lines are those of all files. The folds are those of all files and as many as the glyphs
shown. A glyph has an entry exactly if it stands for some fold, and the entry says for how many. The
counts are the same for the files in any order, and those of two lists of files add up to those of
the lists together. -/
theorem ofFiles_counts (files : List SourceFile) :
    let s := ofFiles files
    (s.totalFiles = files.length ∧
      s.totalFiles = s.pythonFiles + s.javascriptFiles + s.typescriptFiles) ∧
    s.failedFiles = files.countP (!·.parsed) ∧
    s.totalLines = (files.map (·.lineCount)).sum ∧
    (s.totalFolds = (files.map (·.folds.length)).sum ∧
      s.totalFolds = (s.glyphs.map Prod.snd).sum) ∧
    (s.glyphs.Ordered ∧ ∀ g,
      ((s.glyphs.lookup g).isSome ↔
        ∃ file ∈ files, ∃ fold ∈ file.folds, fold.region.placeholder = g) ∧
      ∀ n, s.glyphs.lookup g = some n → n ≠ 0 ∧
        n = (files.flatMap (·.folds)).countP fun fold => fold.region.placeholder = g) ∧
    (∀ files', files.Perm files' → ofFiles files' = s) ∧
    ∀ more, (ofFiles (files ++ more)).IsSum s (ofFiles more) := by
  intro s
  have hs : s = _ := ofFiles_eq files
  have hglyphs : s.glyphs = .ofGlyphs (placeholders files) := congrArg Stats.glyphs hs
  refine ⟨?_, ?_, ?_, ?_, ⟨?_, fun g => ⟨?_, fun n hn => ?_⟩⟩, fun files' h => (ofFiles_congr h).symm,
    isSum_append files⟩
  · rw [hs]
    exact ⟨rfl, length_eq_languages files⟩
  · rw [hs]
  · rw [hs]
  · rw [hs, GlyphCounts.sum_ofGlyphs, length_placeholders]
    exact ⟨rfl, rfl⟩
  · rw [hglyphs]
    exact GlyphCounts.ordered_ofGlyphs _
  · rw [hglyphs, GlyphCounts.lookup_ofGlyphs_isSome, mem_placeholders]
  · rw [hglyphs] at hn
    rw [← count_placeholders]
    exact GlyphCounts.of_lookup_ofGlyphs hn

/-- A file that could not be read, and one in which two sources have the same glyph. -/
def failedAndFolded : List SourceFile :=
  [{ path := "a.py", fullPath := "a.py", language := .python, folds := [], lineCount := 0,
     parsed := false, error := some "stream did not contain valid UTF-8" },
   { path := "b.ts", fullPath := "b.ts", language := .typescript, lineCount := 3, parsed := true,
     folds := [⟨.token ⟨0, 2⟩ "≥", ">=", 1, 0⟩, ⟨.token ⟨4, 7⟩ "≥", "gte", 2, 0⟩] }]

/-- Read in the other order they have the same counts. -/
theorem ofFiles_failedAndFolded :
    failedAndFolded.Perm failedAndFolded.reverse ∧
      ofFiles failedAndFolded.reverse = ⟨2, 1, 2, 1, 0, 1, 3, [("≥", 2)]⟩ := by
  have h : failedAndFolded.Perm failedAndFolded.reverse := (List.reverse_perm _).symm
  refine ⟨h, ((ofFiles_counts failedAndFolded).2.2.2.2.2.1 _ h).trans ?_⟩
  decide +kernel

end Stats

end GlyphFold
