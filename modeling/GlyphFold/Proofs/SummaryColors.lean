import Mathlib.Data.List.Basic
import GlyphFold.Report.Format

/-!
# The colors of a summary

A summary is printed plain or in color. The colors are escape sequences that stand between the parts
of the text: with these deleted, a colored summary is the plain one, character for character.

1. `without`, `Palette.remove`: a text with the sequences of a palette deleted
2. `Bare`: strings without an escape character; numbers and rates are written so
3. `Fades`: texts that are plain once their colors are deleted, whatever comes behind them. Texts that
   fade may stand one behind the other (`Fades.append`, `fades_join`).
4. `Report.fades_summary`, `Report.fades_grouped_summary`: a summary fades if the strings in it are
   bare
5. `Report.remove_text_ansi`: the colored and the plain text of a report
-/

namespace GlyphFold

/-! ## Deleting codes -/

/-- The text with the codes in it deleted. They are looked for from left to right; the first `skip`
characters belong to a code that has been found. -/
def without (codes : List (List Char)) : (skip : Nat) → List Char → List Char
  | _, [] => []
  | skip + 1, _ :: cs => without codes skip cs
  | 0, c :: cs =>
    match codes.find? (·.isPrefixOf (c :: cs)) with
    | some code => without codes (code.length - 1) cs
    | none => c :: without codes 0 cs

theorem without_of_find?_eq_none {codes : List (List Char)} {c : Char} {cs : List Char}
    (h : codes.find? (·.isPrefixOf (c :: cs)) = none) :
    without codes 0 (c :: cs) = c :: without codes 0 cs := by
  rw [without, h]

namespace Palette

/-- The escape sequences of a palette. -/
def codes (p : Palette) : List (List Char) :=
  ([p.bold, p.reset, p.cyan, p.green, p.yellow, p.dim].filter (· ≠ "")).map String.toList

/-- The text with the escape sequences of the palette deleted. -/
def remove (p : Palette) (text : String) : String := String.ofList (without p.codes 0 text.toList)

theorem codes_colored : colored.codes =
    [['\x1b', '[', '1', 'm'], ['\x1b', '[', '0', 'm'], ['\x1b', '[', '3', '6', 'm'],
      ['\x1b', '[', '3', '2', 'm'], ['\x1b', '[', '3', '3', 'm'], ['\x1b', '[', '2', 'm']] := by
  decide

end Palette

/-- The text with its colors deleted. -/
def faded (cs : List Char) : List Char := without Palette.colored.codes 0 cs

theorem faded_cons {c : Char} (hc : c ≠ '\x1b') (cs : List Char) :
    faded (c :: cs) = c :: faded cs := by
  refine without_of_find?_eq_none ?_
  rw [Palette.codes_colored]
  simp [hc.symm]

theorem faded_append_of_notMem {cs : List Char} (hcs : '\x1b' ∉ cs) (rest : List Char) :
    faded (cs ++ rest) = cs ++ faded rest := by
  induction cs with
  | nil => rfl
  | cons c cs ih =>
    obtain ⟨hc, hcs⟩ := not_or.1 (mt List.mem_cons.2 hcs)
    rw [List.cons_append, faded_cons (Ne.symm hc), ih hcs, List.cons_append]

/-! ## Bare strings -/

/-- No escape character is in the string. -/
def Bare (s : String) : Prop := '\x1b' ∉ s.toList

instance (s : String) : Decidable (Bare s) := inferInstanceAs (Decidable (_ ∉ _))

theorem bare_append {s t : String} : Bare (s ++ t) ↔ Bare s ∧ Bare t := by
  unfold Bare
  rw [String.toList_append, List.mem_append, not_or]

theorem ne_escape_of_mem_toDigits {n : Nat} {c : Char} (hc : c ∈ Nat.toDigits 10 n) :
    c ≠ '\x1b' := by
  rintro rfl
  exact absurd (Nat.isDigit_of_mem_toDigits (by decide) (by decide) hc) (by decide)

@[simp] theorem bare_repr (n : Nat) : Bare n.repr := by
  intro h
  rw [Nat.toList_repr] at h
  exact ne_escape_of_mem_toDigits h rfl

theorem bare_fixed (places : Nat) (b : Decimal.Binary) : Bare (b.fixed places) := by
  intro h
  unfold Decimal.Binary.fixed at h
  simp only [String.toList_ofList, List.mem_append, List.mem_cons] at h
  rcases h with ((hsign | hwhole) | hpoint | hzeros) | hfraction
  · split at hsign <;> simp at hsign
  · exact ne_escape_of_mem_toDigits hwhole rfl
  · exact absurd hpoint (by decide)
  · exact absurd (List.eq_of_mem_replicate hzeros) (by decide)
  · exact ne_escape_of_mem_toDigits hfraction rfl

@[simp] theorem bare_rateText (x : Float) : Bare (rateText x) := by
  unfold rateText
  split
  · exact bare_fixed 2 _
  · split
    · decide
    · split <;> decide

/-! ## Texts that fade -/

/-- With its colors deleted the text is the plain one, whatever comes behind it. -/
structure Fades (text : Palette → String) : Prop where
  bare : Bare (text .plain)
  faded_append : ∀ rest,
    faded ((text .colored).toList ++ rest) = (text .plain).toList ++ faded rest

@[simp] theorem fades_bold : Fades Palette.bold := ⟨by decide, fun _ => rfl⟩
@[simp] theorem fades_reset : Fades Palette.reset := ⟨by decide, fun _ => rfl⟩
@[simp] theorem fades_cyan : Fades Palette.cyan := ⟨by decide, fun _ => rfl⟩
@[simp] theorem fades_green : Fades Palette.green := ⟨by decide, fun _ => rfl⟩
@[simp] theorem fades_yellow : Fades Palette.yellow := ⟨by decide, fun _ => rfl⟩
@[simp] theorem fades_dim : Fades Palette.dim := ⟨by decide, fun _ => rfl⟩

@[simp] theorem fades_const {s : String} : Fades (fun _ => s) ↔ Bare s :=
  ⟨Fades.bare, fun hs => ⟨hs, faded_append_of_notMem hs⟩⟩

theorem Fades.append {f g : Palette → String} (hf : Fades f) (hg : Fades g) :
    Fades fun p => f p ++ g p where
  bare := bare_append.2 ⟨hf.bare, hg.bare⟩
  faded_append rest := by
    rw [String.toList_append, List.append_assoc, hf.faded_append, hg.faded_append,
      String.toList_append, List.append_assoc]

theorem Fades.ite {c : Prop} [Decidable c] {f g : Palette → String} (hf : Fades f) (hg : Fades g) :
    Fades fun p => if c then f p else g p := by
  by_cases h : c
  · simpa only [if_pos h] using hf
  · simpa only [if_neg h] using hg

theorem fades_join {α : Type} {line : Palette → α → String} {xs : List α}
    (h : ∀ x ∈ xs, Fades fun p => line p x) : Fades fun p => String.join (xs.map (line p)) := by
  induction xs with
  | nil => exact fades_const.2 (by decide)
  | cons x xs ih =>
    obtain ⟨hx, hxs⟩ := List.forall_mem_cons.1 h
    have hjoin (p : Palette) : String.join ((x :: xs).map (line p)) =
        line p x ++ String.join (xs.map (line p)) :=
      String.toList_injective (by simp)
    simp only [hjoin]
    exact hx.append (ih hxs)

/-- The whole text is one with nothing behind it. -/
theorem Fades.remove {text : Palette → String} (h : Fades text) :
    Palette.colored.remove (text .colored) = text .plain := by
  have hend := h.faded_append []
  rw [List.append_nil] at hend
  show String.ofList (faded (text .colored).toList) = text .plain
  rw [hend]
  show String.ofList ((text .plain).toList ++ []) = text .plain
  rw [List.append_nil, String.ofList_toList]

/-! ## The parts of a summary -/

theorem fades_label {text : String} (h : Bare text) : Fades fun p => p.label text := by
  unfold Palette.label
  repeat' with_reducible apply Fades.append
  all_goals simp [h]

theorem fades_heading {title underline root : String} (htitle : Bare title)
    (hunderline : Bare underline) (hroot : Bare root) :
    Fades fun p => heading p title underline root := by
  unfold heading
  repeat' with_reducible apply Fades.append
  all_goals simp +decide [fades_label, htitle, hunderline, hroot]

theorem fades_durationLine (n : ScanNotes) : Fades fun p => durationLine p n := by
  unfold durationLine
  repeat' with_reducible apply Fades.append
  all_goals simp +decide [fades_label]

theorem fades_glyphLine {glyph : String × Nat} (h : Bare glyph.1) :
    Fades fun p => glyphLine p glyph := by
  unfold glyphLine
  repeat' with_reducible apply Fades.append
  all_goals simp +decide [h]

theorem fades_fileLine {f : SourceFile} (h : Bare f.path) : Fades fun p => fileLine p f := by
  unfold fileLine
  repeat' with_reducible apply Fades.append
  all_goals simp +decide [h]

theorem Stats.mem_ranking {s : Stats} {glyph : String × Nat} :
    glyph ∈ s.ranking ↔ glyph ∈ s.glyphs := List.mem_mergeSort

theorem LanguageSection.mem_of_mem_topFiles {s : LanguageSection} {f : SourceFile}
    (hf : f ∈ s.topFiles) : f ∈ s.files :=
  (List.mem_filter.1 (List.mem_mergeSort.1 (List.mem_of_mem_take hf))).1

theorem Stats.fades_summary {s : Stats} (h : ∀ glyph ∈ s.glyphs, Bare glyph.1) :
    Fades fun p => s.summary p := by
  have hlines : Fades fun p => String.join (s.ranking.map (glyphLine p)) :=
    fades_join fun glyph hglyph => fades_glyphLine (h glyph (mem_ranking.1 hglyph))
  unfold Stats.summary
  repeat' with_reducible apply Fades.append
  all_goals simp +decide [fades_label, hlines]

theorem ScanNotes.fades_summary {n : ScanNotes} (htimestamp : Bare n.timestamp)
    (htoolVersion : Bare n.toolVersion) : Fades fun p => n.summary p := by
  have hmode : Fades fun _ => if n.textMode then " (text mode)" else "" :=
    .ite (fades_const.2 (by decide)) (fades_const.2 (by decide))
  unfold ScanNotes.summary
  repeat' with_reducible apply Fades.append
  all_goals simp +decide [fades_label, fades_durationLine, fades_const.1 hmode, htimestamp,
    htoolVersion]

theorem LanguageSection.fades_summary {s : LanguageSection} (h : ∀ f ∈ s.files, Bare f.path) :
    Fades fun p => s.summary p := by
  have hlines : Fades fun p => String.join (s.topFiles.map (fileLine p)) :=
    fades_join fun f hf => fades_fileLine (h f (mem_of_mem_topFiles hf))
  have htop : Fades fun p => if s.topFiles.isEmpty then "" else
      p.label "Top files by folds:" ++ "\n" ++ String.join (s.topFiles.map (fileLine p)) :=
    .ite (fades_const.2 (by decide))
      (((fades_label (by decide)).append (fades_const.2 (by decide))).append hlines)
  unfold LanguageSection.summary
  refine Fades.append (Fades.append ?_ htop) (fades_const.2 (by decide))
  repeat' with_reducible apply Fades.append
  all_goals simp +decide [fades_label]

namespace Report

/-- The strings of a report that a summary may show. -/
def shown (r : Report) : List String :=
  r.root :: r.notes.timestamp :: r.notes.toolVersion ::
    (r.stats.glyphs.map Prod.fst ++ r.files.map SourceFile.path)

section

variable {r : Report} (h : ∀ s ∈ r.shown, Bare s)

include h

theorem bare_glyph {glyph : String × Nat} (hglyph : glyph ∈ r.stats.glyphs) : Bare glyph.1 :=
  h _ (by simp [shown, List.mem_map_of_mem (f := Prod.fst) hglyph])

theorem bare_path {f : SourceFile} (hf : f ∈ r.files) : Bare f.path :=
  h _ (by simp [shown, List.mem_map_of_mem (f := SourceFile.path) hf])

theorem fades_summary : Fades fun p => r.summary p := by
  have hroot : Bare r.root := h _ (by simp [shown])
  have hnotes : Fades fun p => r.notes.summary p :=
    ScanNotes.fades_summary (h _ (by simp [shown])) (h _ (by simp [shown]))
  have hstats : Fades fun p => r.stats.summary p := Stats.fades_summary fun _ => bare_glyph h
  exact ((fades_heading (by decide) (by decide) hroot).append hstats).append hnotes

theorem fades_grouped_summary : Fades fun p => r.grouped.summary p := by
  have hroot : Bare r.root := h _ (by simp [shown])
  have hpython : Fades fun p => r.grouped.python.summary p :=
    LanguageSection.fades_summary fun f hf => bare_path h (List.mem_of_mem_filter hf)
  have hnodejs : Fades fun p => r.grouped.nodejs.summary p :=
    LanguageSection.fades_summary fun f hf => bare_path h (List.mem_of_mem_filter hf)
  have hheading : Fades fun p => heading p "Glyph Fold Summary (Grouped)"
      "============================" r.grouped.root := fades_heading (by decide) (by decide) hroot
  unfold GroupedReport.summary
  repeat' with_reducible apply Fades.append
  all_goals simp +decide [hheading, hpython, hnodejs, fades_durationLine]

/-- **Colors are all that a colored summary adds.** If no string that a summary may show has an
escape character in it, then the colored summary of a report, flat or grouped, is the plain one once
the escape sequences of its palette are deleted; and no escape character is left then. -/
theorem remove_text_ansi (grouped : Bool) :
    Palette.colored.remove (r.text .ansi grouped) = r.text .summary grouped ∧
      Bare (r.text .summary grouped) := by
  cases grouped with
  | false => exact ⟨(fades_summary h).remove, (fades_summary h).bare⟩
  | true => exact ⟨(fades_grouped_summary h).remove, (fades_grouped_summary h).bare⟩

end

/-- A report of two files, one of them with folds. -/
def comparisons : Report :=
  let folds : List Fold := [⟨.token ⟨5, 7⟩ "≥", ">=", 1, 5⟩, ⟨.token ⟨12, 14⟩ "λ", "lambda", 2, 5⟩]
  let files : List SourceFile :=
    [{ path := "app.py", fullPath := "/proj/app.py", language := .python, folds, lineCount := 2,
       parsed := true },
     { path := "index.ts", fullPath := "/proj/index.ts", language := .typescript, folds := [],
       lineCount := 0, parsed := false }]
  { root := "/proj", files, stats := .ofFiles files
    notes := { timestamp := "2024-03-01T12:00:00+00:00", toolVersion := "0.1.0", mappingsCount := 2,
               textMode := false } }

/-- What is left of its colored summary by sections, which is not bare. -/
theorem remove_text_ansi_comparisons :
    (∀ s ∈ comparisons.shown, Bare s) ∧
      ¬ Bare (comparisons.text .ansi true) ∧
      Palette.colored.remove (comparisons.text .ansi true) =
        "Glyph Fold Summary (Grouped)\n============================\nRoot: /proj\n\n" ++
        "## Python\nFiles: 1 | Lines: 2 | Folds: 2\nTop files by folds:\n" ++
        "  app.py (2 folds, 2 lines)\n\n" ++
        "## Node.js (JavaScript + TypeScript)\nFiles: 1 | Lines: 0 | Folds: 0\n\n" ++
        "Scan Duration: 0ms (0.00 files/sec)\n" := by
  have hbare : ∀ s ∈ comparisons.shown, Bare s := by decide
  refine ⟨hbare, ?_, (remove_text_ansi hbare true).1.trans ?_⟩
  · show ¬ Bare (comparisons.grouped.summary .colored)
    unfold GroupedReport.summary heading
    simp only [bare_append, not_and_or]
    simp +decide
  · have hpython : comparisons.grouped.python.topFiles = comparisons.files.take 1 :=
      congrArg (List.take 5) (List.mergeSort_singleton _)
    have hnodejs : comparisons.grouped.nodejs.topFiles = [] :=
      congrArg (List.take 5) (List.mergeSort_nil)
    show comparisons.grouped.summary .plain = _
    unfold GroupedReport.summary LanguageSection.summary
    rw [hpython, hnodejs]
    decide +kernel

end Report

end GlyphFold
