import Mathlib.Data.List.FinRange
import GlyphFold.Proofs.ReportCounts
import GlyphFold.Proofs.SortedLists
import GlyphFold.Report.Summary

/-!
# The rankings of a summary

A flat summary lists the glyphs of a report, and a grouped one the files with the most folds of each
section. The lists are told by what stands in them and in which order, and the summaries by the lists:
no glyph and no file is named in front of a list or behind it.

1. `Stats.Ranks`: a list of all glyphs, the most frequent first (`Stats.ranks_ranking`)
2. `LanguageSection.Ranks`: places of the files with the most folds, those that come first among
   equals (`LanguageSection.Ranks.unique`, `LanguageSection.ranks_leading`)
3. `Report.summaries_ranked`: both summaries with their lists
-/

namespace GlyphFold

/-! ## Glyphs -/

namespace Stats

/-- The glyphs of the counts, each as often as the counts have it, by decreasing frequency and then by
name. -/
structure Ranks (s : Stats) (listed : List (String × Nat)) : Prop where
  perm : listed.Perm s.glyphs
  order : listed.Pairwise RanksBefore

theorem ranks_ranking (s : Stats) : s.Ranks s.ranking where
  perm := List.mergeSort_perm ..
  order := by
    have htest (a b : String × Nat) :
        (decide (b.2 < a.2) || (a.2 == b.2 && decide (a.1 ≤ b.1))) = true ↔ RanksBefore a b := by
      simp [RanksBefore]
    refine (List.pairwise_mergeSort (fun a b c hab hbc => ?_) (fun a b => ?_) s.glyphs).imp
      (htest _ _).1
    · exact (htest a c).2 (((htest a b).1 hab).trans ((htest b c).1 hbc))
    · rw [Bool.or_eq_true, htest, htest]
      exact RanksBefore.total a b

/-- There is one such list only. -/
theorem Ranks.unique {s : Stats} {listed listed' : List (String × Nat)} (h : s.Ranks listed)
    (h' : s.Ranks listed') : listed = listed' :=
  (h.perm.trans h'.perm.symm).eq_of_pairwise (fun _ _ _ _ => RanksBefore.antisymm) h.order h'.order

/-- Where the counts have each glyph once, equally frequent ones are listed in increasing order. -/
theorem Ranks.increasing {s : Stats} {listed : List (String × Nat)} (h : s.Ranks listed)
    (hs : s.glyphs.Ordered) :
    listed.Pairwise fun a b => b.2 < a.2 ∨ (a.2 = b.2 ∧ a.1 < b.1) := by
  have hdistinct : s.glyphs.Pairwise fun a b => a.1 ≠ b.1 := by
    refine (List.pairwise_map.1 hs).imp fun {a b} hlt heq => ?_
    rw [heq] at hlt
    exact String.lt_irrefl _ hlt
  refine h.order.imp₂ (fun a b hab hne => ?_) (h.perm.symm.pairwise hdistinct Ne.symm)
  refine hab.imp_right fun ⟨heq, hle⟩ => ⟨heq, ?_⟩
  exact String.not_le.1 fun hge => hne (String.le_antisymm hle hge)

/-- The part of a flat summary that lists these glyphs. -/
def listing (p : Palette) (s : Stats) (listed : List (String × Nat)) : String :=
  p.label "Files Scanned:" ++ " " ++ toString s.totalFiles ++ " (Python: " ++
    toString s.pythonFiles ++ ", JavaScript: " ++ toString s.javascriptFiles ++
    ", TypeScript: " ++ toString s.typescriptFiles ++ ", failed: " ++ toString s.failedFiles ++
    ")\n" ++
  p.label "Total Lines:" ++ " " ++ toString s.totalLines ++ "\n\n" ++
  p.label "Total Folds:" ++ " " ++ toString s.totalFolds ++ "\n" ++
  String.join (listed.map (glyphLine p)) ++ "\n"

end Stats

/-! ## Files -/

namespace LanguageSection

variable (s : LanguageSection)

/-- The number of folds of the file at a place. -/
def foldsAt (i : Fin s.files.length) : Nat := (s.files.get i).folds.length

/-- The first place has a file with more folds than the second one, or it has one with as many and
comes first. -/
def Above (i j : Fin s.files.length) : Prop :=
  s.foldsAt j < s.foldsAt i ∨ (s.foldsAt i = s.foldsAt j ∧ i < j)

instance (i j : Fin s.files.length) : Decidable (s.Above i j) :=
  inferInstanceAs (Decidable (s.foldsAt j < s.foldsAt i ∨ (s.foldsAt i = s.foldsAt j ∧ i < j)))

/-- The places of the five files with the most folds, or of all files with folds if there are
fewer. -/
structure Ranks (places : List (Fin s.files.length)) : Prop where
  length_eq : places.length = min 5 (s.files.countP fun f => f.folds ≠ [])
  folded : ∀ i ∈ places, (s.files.get i).folds ≠ []
  order : places.Pairwise s.Above
  left_out : ∀ i ∈ places, ∀ j, j ∉ places → s.Above i j

def hasFolds (i : Fin s.files.length) : Bool := !(s.files.get i).folds.isEmpty

/-- The places of the files with folds, those with more folds first. -/
def leading : List (Fin s.files.length) :=
  ((List.finRange s.files.length).filter s.hasFolds).mergeSort fun i j =>
    decide (s.foldsAt j ≤ s.foldsAt i)

variable {s}

theorem Above.asymm {i j : Fin s.files.length} (h : s.Above i j) : ¬ s.Above j i := by
  unfold Above at h ⊢
  omega

/-- There are no other such places. -/
theorem Ranks.unique {places places' : List (Fin s.files.length)} (h : s.Ranks places)
    (h' : s.Ranks places') : places = places' := by
  have hnodup {l : List (Fin s.files.length)} (hl : l.Pairwise s.Above) : l.Nodup :=
    hl.imp fun {i j} hij heq => (heq ▸ hij).asymm (heq ▸ hij)
  have hlength := h.length_eq.trans h'.length_eq.symm
  have hsub : places ⊆ places' := by
    intro i hi
    by_contra hout
    -- then the lists, of one length, leave out a place of each other, and both cannot be above
    obtain ⟨j, hj, hleft⟩ : ∃ j ∈ places', j ∉ places := by
      by_contra! hall
      have hperm := (List.subperm_of_subset (hnodup h'.order) hall).perm_of_length_le hlength.le
      exact hout (hperm.mem_iff.2 hi)
    exact (h.left_out i hi j hleft).asymm (h'.left_out j hj i hout)
  have hperm := (List.subperm_of_subset (hnodup h.order) hsub).perm_of_length_le hlength.ge
  exact hperm.eq_of_pairwise (fun _ _ _ _ hij hji => absurd hji hij.asymm) h.order h'.order

theorem hasFolds_iff {i : Fin s.files.length} :
    s.hasFolds i = true ↔ (s.files.get i).folds ≠ [] := by
  simp [hasFolds]

theorem mem_leading {i : Fin s.files.length} : i ∈ s.leading ↔ (s.files.get i).folds ≠ [] := by
  rw [leading, List.mem_mergeSort, List.mem_filter, hasFolds_iff]
  exact and_iff_right (List.mem_finRange i)

theorem pairwise_leading : s.leading.Pairwise s.Above := by
  have hplaces : ((List.finRange s.files.length).filter s.hasFolds).Pairwise (· < ·) :=
    (List.pairwise_lt_finRange _).filter _
  have htrans (i j k : Fin s.files.length) (hij : s.foldsAt j ≤ s.foldsAt i)
      (hjk : s.foldsAt k ≤ s.foldsAt j) : s.foldsAt k ≤ s.foldsAt i := hjk.trans hij
  have htotal (i j : Fin s.files.length) :
      s.foldsAt j ≤ s.foldsAt i ∨ s.foldsAt i ≤ s.foldsAt j := Nat.le_total _ _
  refine (pairwise_mergeSort_or htrans htotal hplaces).imp fun {i j} h => ?_
  show s.foldsAt j < s.foldsAt i ∨ _
  rcases h with hlt | ⟨hle, hbefore⟩ <;> omega

theorem length_leading : s.leading.length = s.files.countP fun f => f.folds ≠ [] := by
  have hfiles : s.files.countP (fun f => f.folds ≠ []) =
      ((List.finRange s.files.length).map s.files.get).countP fun f => f.folds ≠ [] := by
    rw [List.map_get_finRange]
  rw [leading, List.length_mergeSort, hfiles, List.countP_map, ← List.countP_eq_length_filter]
  exact List.countP_congr fun i _ => by simp [hasFolds]

theorem ranks_leading : s.Ranks (s.leading.take 5) where
  length_eq := by rw [List.length_take, length_leading]
  folded i hi := mem_leading.1 (List.mem_of_mem_take hi)
  order := pairwise_leading.sublist (List.take_sublist ..)
  left_out i hi j hj := by
    have hsplit := pairwise_leading (s := s)
    rw [← List.take_append_drop 5 s.leading, List.pairwise_append] at hsplit
    by_cases hfolds : (s.files.get j).folds = []
    · refine .inl ?_
      show (s.files.get j).folds.length < _
      rw [hfolds]
      exact List.length_pos_iff.2 (mem_leading.1 (List.mem_of_mem_take hi))
    · have hmem : j ∈ s.leading.take 5 ++ s.leading.drop 5 := by
        rw [List.take_append_drop]
        exact mem_leading.2 hfolds
      exact hsplit.2.2 i hi j ((List.mem_append.1 hmem).resolve_left hj)

/-- The files that a section lists are those at the leading places. -/
theorem topFiles_eq : s.topFiles = (s.leading.take 5).map s.files.get := by
  have hfiles : s.files.filter (!·.folds.isEmpty) =
      ((List.finRange s.files.length).filter s.hasFolds).map s.files.get := by
    conv_lhs => rw [← List.map_get_finRange s.files, List.filter_map]
    rfl
  rw [topFiles, hfiles, leading, List.map_take, List.map_mergeSort]
  exact fun _ _ _ _ => rfl

/-- The part of a grouped summary that lists the files of a section at these places. -/
def listing (p : Palette) (s : LanguageSection) (places : List (Fin s.files.length)) : String :=
  p.label "Files:" ++ " " ++ toString s.stats.totalFiles ++ " | " ++
  p.label "Lines:" ++ " " ++ toString s.stats.totalLines ++ " | " ++
  p.label "Folds:" ++ " " ++ toString s.stats.totalFolds ++ "\n" ++
  (if places.isEmpty then "" else
    p.label "Top files by folds:" ++ "\n" ++
      String.join (places.map fun i => fileLine p (s.files.get i))) ++ "\n"

theorem summary_eq_listing (p : Palette) : s.summary p = s.listing p (s.leading.take 5) := by
  unfold summary listing
  rw [topFiles_eq, List.isEmpty_map, List.map_map]
  rfl

end LanguageSection

/-! ## Summaries -/

namespace Report

/-- **What summaries list.** The flat summary of a report lists every glyph of its counts as often as
they have it, by decreasing count and for equal counts in increasing order. Each section of the grouped
summary lists files with folds only, five of them or all if there are fewer. They stand by decreasing
number of folds, those with equally many in the order of the section, and a file that is not listed has
fewer folds than each that is, or as many and comes later. -/
theorem summaries_ranked (r : Report) (p : Palette) :
    (∃ glyphs, r.stats.Ranks glyphs ∧
      (r.stats.glyphs.Ordered →
        glyphs.Pairwise fun a b => b.2 < a.2 ∨ (a.2 = b.2 ∧ a.1 < b.1)) ∧
      r.summary p = heading p "Glyph Fold Summary" "==================" r.root ++
        r.stats.listing p glyphs ++ r.notes.summary p) ∧
    ∃ python nodejs, r.grouped.python.Ranks python ∧ r.grouped.nodejs.Ranks nodejs ∧
      r.grouped.summary p =
        heading p "Glyph Fold Summary (Grouped)" "============================" r.root ++
        p.bold ++ p.green ++ "## Python" ++ p.reset ++ "\n" ++ r.grouped.python.listing p python ++
        p.bold ++ p.yellow ++ "## Node.js (JavaScript + TypeScript)" ++ p.reset ++ "\n" ++
        r.grouped.nodejs.listing p nodejs ++ durationLine p r.notes := by
  refine ⟨⟨_, r.stats.ranks_ranking, r.stats.ranks_ranking.increasing, rfl⟩, ?_⟩
  refine ⟨_, _, LanguageSection.ranks_leading, LanguageSection.ranks_leading, ?_⟩
  rw [← LanguageSection.summary_eq_listing, ← LanguageSection.summary_eq_listing]
  rfl

/-- A file that shows some glyphs. -/
def fileShowing (path : String) (l : Language) (glyphs : List String) : SourceFile where
  path := path
  fullPath := "/proj/" ++ path
  language := l
  folds := glyphs.map fun glyph => ⟨{ start := 0, stop := 1, placeholder := glyph }, "x", 1, 0⟩
  lineCount := 1
  parsed := true

def filesWithTie : List SourceFile :=
  [fileShowing "a.py" .python ["λ"], fileShowing "b.py" .python ["∑", "∑"],
   fileShowing "c.py" .python [], fileShowing "d.py" .python ["≥"],
   fileShowing "e.ts" .typescript [], fileShowing "f.py" .python ["λ", "≥"],
   fileShowing "g.py" .python ["∑"], fileShowing "h.py" .python ["∑"]]

/-- A report with two glyphs that are shown equally often, and with files that show equally many,
also at the end of the list of five. -/
def withTie : Report where
  root := "/proj"
  files := filesWithTie
  stats := .ofFiles filesWithTie
  notes := { timestamp := "T", toolVersion := "0.1.0", mappingsCount := 3, textMode := true }

/-- The glyph that is shown most often comes first, and the tie is broken by name. Of the files with
one fold those come first that stand first, and the last of them is left out. -/
theorem summaries_ranked_withTie :
    withTie.stats.glyphs.Ordered ∧
      (∃ glyphs, glyphs = [("∑", 4), ("λ", 2), ("≥", 2)] ∧
        (glyphs.Pairwise fun a b => b.2 < a.2 ∨ (a.2 = b.2 ∧ a.1 < b.1)) ∧
        withTie.summary .plain =
          "Glyph Fold Summary\n==================\nRoot: /proj\n\n" ++
          "Files Scanned: 8 (Python: 7, JavaScript: 0, TypeScript: 1, failed: 0)\n" ++
          "Total Lines: 8\n\nTotal Folds: 8\n  ∑ 4\n  λ 2\n  ≥ 2\n\n" ++
          "Mappings: 3 (text mode)\nScan Duration: 0ms (0.00 files/sec)\n" ++
          "Timestamp: T\nTool Version: 0.1.0\n") ∧
      withTie.grouped.summary .plain =
        "Glyph Fold Summary (Grouped)\n============================\nRoot: /proj\n\n" ++
        "## Python\nFiles: 7 | Lines: 7 | Folds: 8\nTop files by folds:\n" ++
        "  b.py (2 folds, 1 lines)\n  f.py (2 folds, 1 lines)\n  a.py (1 folds, 1 lines)\n" ++
        "  d.py (1 folds, 1 lines)\n  g.py (1 folds, 1 lines)\n\n" ++
        "## Node.js (JavaScript + TypeScript)\nFiles: 1 | Lines: 1 | Folds: 0\n\n" ++
        "Scan Duration: 0ms (0.00 files/sec)\n" := by
  have hordered : withTie.stats.glyphs.Ordered := by
    unfold GlyphCounts.Ordered
    decide +kernel
  obtain ⟨⟨glyphs, hranks, hincreasing, htext⟩, python, nodejs, hpython, hnodejs, hgrouped⟩ :=
    summaries_ranked withTie .plain
  obtain rfl : glyphs = [("∑", 4), ("λ", 2), ("≥", 2)] :=
    hranks.unique ⟨by decide +kernel, by decide +kernel⟩
  obtain rfl : python = [⟨1, by decide +kernel⟩, ⟨4, by decide +kernel⟩, ⟨0, by decide +kernel⟩,
      ⟨3, by decide +kernel⟩, ⟨5, by decide +kernel⟩] :=
    hpython.unique ⟨by decide +kernel, by decide +kernel, by decide +kernel, by decide +kernel⟩
  obtain rfl : nodejs = [] :=
    hnodejs.unique ⟨by decide +kernel, nofun, .nil, nofun⟩
  refine ⟨hordered, ⟨_, rfl, hincreasing hordered, htext.trans ?_⟩, hgrouped.trans ?_⟩
  · decide +kernel
  · decide +kernel

end Report

end GlyphFold
