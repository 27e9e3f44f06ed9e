import GlyphFold.Proofs.ReportCounts
import GlyphFold.Scan.Scanner

/-!
# The sections of a report

A grouped report keeps the files of Python apart from those of JavaScript and TypeScript, and counts
each part anew. Nothing is lost or told twice by that: the sections hold the files of the report in
their order, and what they count adds up to what the report counts.

1. `Stats.isSum_filter`: the counts of files that are sorted into two lists
2. `Stats.countFiles`: the files that are counted for a language, none if no file is in it
3. `Report.Counted`: reports whose counts are those of their files, as a scan makes them
4. `Report.grouped_sections`: the files and the counts of the two sections
-/

namespace GlyphFold

namespace Stats

/-- Files sorted by a test have the counts of all the files, divided between the two lists. -/
theorem isSum_filter (p : SourceFile → Bool) (files : List SourceFile) :
    (ofFiles files).IsSum (ofFiles (files.filter p)) (ofFiles (files.filter (!p ·))) := by
  rw [ofFiles_congr (List.filter_append_perm p files).symm]
  exact isSum_append _ _

/-- A glyph has an entry exactly if some fold of the files shows it. -/
theorem glyphs_lookup_isSome (files : List SourceFile) (g : String) :
    ((ofFiles files).glyphs.lookup g).isSome ↔ g ∈ placeholders files := by
  rw [ofFiles_eq]
  exact GlyphCounts.lookup_ofGlyphs_isSome _ _

/-- The number of files counted for a language. -/
def countFiles (s : Stats) : Language → Nat
  | .python => s.pythonFiles
  | .javascript => s.javascriptFiles
  | .typescript => s.typescriptFiles

theorem countFiles_ofFiles (files : List SourceFile) (l : Language) :
    (ofFiles files).countFiles l = files.countP (·.language = l) := by
  rw [ofFiles_eq]
  cases l <;> rfl

theorem countFiles_eq_zero_iff {files : List SourceFile} {l : Language} :
    (ofFiles files).countFiles l = 0 ↔ ∀ f ∈ files, f.language ≠ l := by
  simp only [countFiles_ofFiles, List.countP_eq_zero, decide_eq_true_eq, ne_eq]

end Stats

theorem mem_placeholders_filter (p : SourceFile → Bool) {files : List SourceFile} {g : String} :
    g ∈ placeholders files ↔
      g ∈ placeholders (files.filter p) ∨ g ∈ placeholders (files.filter (!p ·)) := by
  rw [← List.mem_append, ← placeholders_append]
  exact (((List.filter_append_perm p files).symm.flatMap_right _).map _).mem_iff

namespace Report

/-- The counts of the report are those of its files. -/
def Counted (r : Report) : Prop := r.stats = .ofFiles r.files

theorem counted_scan (sc : Scanner) (fs : FileSystem) (times : ScanTimes) :
    (sc.scan fs times).Counted := rfl

def isPython (f : SourceFile) : Bool := f.language = .python

theorem not_isPython (f : SourceFile) :
    (!isPython f) = decide (f.language = .javascript ∨ f.language = .typescript) := by
  unfold isPython
  cases f.language <;> rfl

theorem files_grouped_nodejs (r : Report) :
    r.grouped.nodejs.files = r.files.filter (!isPython ·) :=
  List.filter_congr fun _ _ => decide_not

/-- **Grouping loses nothing.** The first section has the Python files of the report and the second
one those in JavaScript and TypeScript, both in the order of the report, so together they have every
file as often as the report has it. If the counts of the report are those of its files, each of them
is the sum of the counts of the sections; so is the count of each glyph, and a glyph has an entry
exactly if it has one in a section. No section counts a file for a language of the other. -/
theorem grouped_sections {r : Report} (h : r.Counted) :
    let python := r.grouped.python
    let nodejs := r.grouped.nodejs
    python.files = r.files.filter (·.language = .python) ∧
    nodejs.files =
      (r.files.filter fun f => f.language = .javascript ∨ f.language = .typescript) ∧
    (python.files ++ nodejs.files).Perm r.files ∧
    r.stats.IsSum python.stats nodejs.stats ∧
    (∀ g, (r.stats.glyphs.lookup g).isSome ↔
      (python.stats.glyphs.lookup g).isSome ∨ (nodejs.stats.glyphs.lookup g).isSome) ∧
    python.stats.javascriptFiles = 0 ∧ python.stats.typescriptFiles = 0 ∧
    nodejs.stats.pythonFiles = 0 := by
  intro python nodejs
  have hother : nodejs.files = r.files.filter (!isPython ·) := files_grouped_nodejs r
  have hpython : python.stats = .ofFiles (r.files.filter isPython) := rfl
  have hnodejs : nodejs.stats = .ofFiles (r.files.filter (!isPython ·)) :=
    congrArg Stats.ofFiles hother
  have habsent : ∀ l, l ≠ .python → python.stats.countFiles l = 0 := fun l hl =>
    Stats.countFiles_eq_zero_iff.2 fun f hf heq =>
      hl (heq.symm.trans (of_decide_eq_true (List.mem_filter.1 hf).2))
  have habsent' : (Stats.ofFiles nodejs.files).countFiles .python = 0 :=
    Stats.countFiles_eq_zero_iff.2 fun f hf => of_decide_eq_true (List.mem_filter.1 hf).2
  refine ⟨rfl, ?_, ?_, ?_, fun g => ?_, habsent .javascript nofun, habsent .typescript nofun,
    habsent'⟩
  · rw [hother]
    exact List.filter_congr fun f _ => not_isPython f
  · rw [hother]
    exact List.filter_append_perm isPython r.files
  · rw [h, hpython, hnodejs]
    exact Stats.isSum_filter isPython r.files
  · rw [h, hpython, hnodejs]
    simp only [Stats.glyphs_lookup_isSome]
    exact mem_placeholders_filter isPython

/-- A report in which the languages alternate and a glyph stands in files of each section. -/
def alternating : Report :=
  let file (path : String) (l : Language) (glyphs : List String) : SourceFile :=
    { path := path, fullPath := path, language := l, lineCount := 2, parsed := true,
      folds := glyphs.map fun g => ⟨.token ⟨0, 2⟩ g, ">=", 1, 0⟩ }
  let files := [file "a.py" .python ["≥", "λ"], file "b.js" .javascript ["≥"],
    file "c.py" .python ["≥"], file "d.ts" .typescript []]
  { root := ".", files := files, stats := .ofFiles files,
    notes :=
      { timestamp := "", toolVersion := toolVersion, mappingsCount := 2, textMode := false } }

/-- Each section has two of the files, and the glyph is shown twice in one and once in the other. -/
theorem grouped_alternating :
    alternating.grouped.python.files.map (·.path) = ["a.py", "c.py"] ∧
    alternating.grouped.nodejs.files.map (·.path) = ["b.js", "d.ts"] ∧
    alternating.stats.totalFolds = 3 + 1 ∧ alternating.stats.glyphs.shown "≥" = 2 + 1 := by
  obtain ⟨hpython, hnodejs, -, hsum, -⟩ := grouped_sections (r := alternating) rfl
  refine ⟨?_, ?_, hsum.totalFolds.trans ?_, (hsum.glyphs "≥").trans ?_⟩
  · rw [hpython]
    decide +kernel
  · rw [hnodejs]
    decide +kernel
  · decide +kernel
  · decide +kernel

end Report

end GlyphFold
