import GlyphFold.Proofs.ListedAndRendered
import GlyphFold.Proofs.NestedRanges
import GlyphFold.Scan.Host

/-!
# The lines of folds

A file's line count knows line feeds only, while the line of a fold is found among all line breaks.
So a fold may stand on a line that the file does not have, and it is the breaks other than line
feeds that decide.

1. `Concrete.Extends`, `Host.Grows`: what is planted by a parser is a grown tree of the same source
2. `Scanner.exists_standsFor`: in either mode a region of a scanner covers a source
3. `otherBreaks`, `line_position`, `lineCount_append`: the line of a place and the count of lines
   behind it
4. `Scanner.Reports`: the files that a scanner reports, and where their folds stand
5. `Scanner.fold_line_le_iff`: the line of a fold against the line count of its file
-/

namespace GlyphFold

/-! ## Planted trees -/

namespace Concrete

/-- The second tree is a grown tree of the same source, with the nodes of the first and more. -/
structure Extends (t t' : TokenTree) : Prop where
  grown : t'.Grown
  size_le : t.size ≤ t'.size
  source_eq : t'.source = t.source

variable {t t' t'' : TokenTree}

theorem Extends.trans (h : Extends t t') (h' : Extends t' t'') : Extends t t'' where
  grown := h'.grown
  size_le := Nat.le_trans h.size_le h'.size_le
  source_eq := h'.source_eq.trans h.source_eq

theorem extends_push (ht : t.Grown) {parent : NodeId} (hparent : parent < t.size) (kind : String)
    (range : Span) : Extends t (t.push parent kind range) where
  grown := ht.push hparent kind range
  size_le := by
    rw [TokenTree.size_push]
    exact Nat.le_succ t.size
  source_eq := TokenTree.source_push t parent kind range

mutual

theorem extends_plant {t : TokenTree} (ht : t.Grown) {parent : NodeId} (hparent : parent < t.size) :
    (c : Concrete) → Extends t (plant t parent c)
  | leaf kind range => extends_push ht hparent kind range
  | node kind children => by
    -- the children go below the new node, whose number is the size of the tree so far
    have hpush := extends_push ht hparent kind (rangeOf children)
    have hnew : t.size < (t.push parent kind (rangeOf children)).size := by
      rw [TokenTree.size_push]
      exact Nat.lt_succ_self t.size
    exact hpush.trans (extends_plantAll hpush.grown hnew children)

theorem extends_plantAll {t : TokenTree} (ht : t.Grown) {parent : NodeId}
    (hparent : parent < t.size) : (cs : List Concrete) → Extends t (plantAll t parent cs)
  | [] => ⟨ht, Nat.le_refl t.size, rfl⟩
  | c :: cs => by
    have hplant := extends_plant ht hparent c
    exact hplant.trans
      (extends_plantAll hplant.grown (Nat.lt_of_lt_of_le hparent hplant.size_le) cs)

end

theorem extends_toTokenTree (source rootKind : String) (phrases : List Concrete) :
    Extends (.ofSource source rootKind) (toTokenTree source rootKind phrases) :=
  extends_plantAll (.ofSource source rootKind) Nat.one_pos phrases

end Concrete

/-- The tree of a source is grown, whatever the source and the language. -/
theorem Language.extends_tokenTree (l : Language) (source : String) :
    ∃ rootKind, Concrete.Extends (.ofSource source rootKind) (l.tokenTree source) := by
  cases l <;> exact ⟨_, Concrete.extends_toTokenTree source _ _⟩

/-- The trees that the host gives are grown, and each has the source that it was asked for. -/
def Host.Grows (h : Host) : Prop :=
  ∀ l source t, h.parse l source = .ok t → t.Grown ∧ t.source = source

theorem Host.grows_willing : willing.Grows := by
  intro l source t ht
  cases ht
  obtain ⟨rootKind, htree⟩ := l.extends_tokenTree source
  exact ⟨htree.grown, htree.source_eq⟩

/-! ## Regions -/

namespace Scanner

variable {sc : Scanner} (hmade : sc.Made)

include hmade

theorem consistent_table : sc.resolver.table.Consistent := by
  obtain ⟨engine, edits, ev, hr⟩ := hmade
  rw [(Resolver.new_eq_ok_iff.1 hr).2.2]
  exact Table.consistent_run edits

/-- Each region of a source covers the source of a mapping, in text mode or not. -/
theorem exists_standsFor {h : Host} (hh : h.Grows) {source : String} {l : Language}
    {regions : List Region} (hregions : sc.regionsOn h source l = .ok regions) {f : Region}
    (hf : f ∈ regions) : ∃ m, StandsFor sc.resolver.table source.toList f m := by
  unfold regionsOn at hregions
  split at hregions
  · next htext =>
    cases hregions
    have hmem : f ∈ sc.regions source l := by rwa [Scanner.regions, if_pos htext]
    exact (occurs_of_mem_regions hmade htext hmem).imp fun _ hm => hm.standsFor
  · cases ht : h.parse l source with
    | error e =>
      rw [ht] at hregions
      cases hregions
    | ok t =>
      rw [ht] at hregions
      cases hregions
      obtain ⟨hgrown, rfl⟩ := hh l source t ht
      exact Resolver.standsFor_of_mem_resolve (consistent_table hmade) hgrown
        hgrown.pushed.size_pos hf

end Scanner

/-! ## Lines -/

namespace Text

/-- The line breaks of a text that are no line feeds. CR LF counts as its line feed, so a CR at the
end counts only if the text behind does not start with LF. -/
def otherBreaks (behind : List Char) : List Char → Nat
  | [] => 0
  | c :: cs =>
    (if isLineBreak c && c ≠ '\n' && !(c = '\r' && (cs ++ behind).head? = some '\n') then 1
      else 0) + otherBreaks behind cs

theorem line_after (p : Position) (c : Char) (next : Option Char) :
    (p.after c next).line = p.line + (if c = '\n' then 1 else 0) +
      (if isLineBreak c && c ≠ '\n' && !(c = '\r' && next = some '\n') then 1 else 0) := by
  unfold Position.after
  by_cases hfeed : c = '\n'
  · subst hfeed
    rfl
  · have hother : decide (c ≠ '\n') = true := decide_eq_true hfeed
    rw [hother, Bool.and_true, if_neg hfeed]
    split <;> rfl

/-- The line of a place is told by the line breaks before it. -/
theorem line_positionFrom (p : Position) (before behind : List Char) :
    (positionFrom p (before ++ behind) (byteSize before)).line =
      p.line + before.count '\n' + otherBreaks behind before := by
  induction before generalizing p with
  | nil =>
    cases behind with
    | nil => rfl
    | cons c cs =>
      have hpos := c.utf8Size_pos
      rw [List.nil_append, positionFrom, if_neg (by rw [byteSize_nil]; omega)]
      rfl
  | cons c before ih =>
    rw [List.cons_append, positionFrom, byteSize_cons, if_pos (Nat.le_add_right _ _),
      Nat.add_sub_cancel_left, ih, line_after, List.count_cons, otherBreaks]
    simp only [beq_iff_eq]
    omega

theorem line_position (before behind : List Char) :
    (position (before ++ behind) (byteSize before)).line =
      before.count '\n' + otherBreaks behind before := by
  unfold position
  rw [line_positionFrom, Nat.zero_add]

theorem otherBreaks_append (behind before after : List Char) :
    otherBreaks behind (before ++ after) = otherBreaks (after ++ behind) before +
      otherBreaks behind after := by
  induction before with
  | nil => rw [List.nil_append, otherBreaks, Nat.zero_add]
  | cons c before ih =>
    rw [List.cons_append, otherBreaks, otherBreaks, ih, List.append_assoc, Nat.add_assoc]

/-- A text with something behind it has its line feeds as lines beside those behind it. -/
theorem lineCount_append (before : List Char) {behind : List Char} (hbehind : behind ≠ []) :
    lineCount (before ++ behind) = before.count '\n' + lineCount behind := by
  unfold lineCount
  rw [List.count_append, List.getLast?_append_of_ne_nil before hbehind, Nat.add_assoc]

theorem one_le_lineCount {cs : List Char} (hcs : cs ≠ []) : 1 ≤ lineCount cs := by
  unfold lineCount
  rw [List.getLast?_eq_some_getLast hcs, Option.all_some]
  by_cases hlast : cs.getLast hcs = '\n'
  · have hfeed : 1 ≤ cs.count '\n' := List.one_le_count_iff.2 (hlast ▸ List.getLast_mem hcs)
    omega
  · rw [if_neg (by simpa using hlast)]
    omega

end Text

/-! ## Folds -/

namespace Scanner

/-- A file that the scanner reports on a host, in a scan or by itself. -/
def Reports (sc : Scanner) (h : Host) (fs : FileSystem) (file : SourceFile) : Prop :=
  (∃ times report, sc.scanOn h fs times = .ok report ∧ file ∈ report.files) ∨
    ∃ path, sc.scanFileOn h fs path = .ok file

theorem Reports.exists_sourceFileOn {sc : Scanner} {h : Host} {fs : FileSystem} {file : SourceFile}
    (hfile : sc.Reports h fs file) : ∃ path l text, file = sc.sourceFileOn h path l text := by
  rcases hfile with ⟨times, report, hreport, hfile⟩ | ⟨path, hfile⟩
  · cases hreport
    obtain ⟨found, -, rfl⟩ := List.mem_map.1 hfile
    exact ⟨_, _, _, rfl⟩
  · unfold scanFileOn at hfile
    rcases languageOf_cases path with ⟨l, hl⟩ | hl
    · rw [hl] at hfile
      exact ⟨_, _, _, (Except.ok.inj hfile).symm⟩
    · rw [hl] at hfile
      cases hfile

/-- A file with folds was read, and its folds are the regions of its source, located. -/
theorem exists_region_of_mem_folds {sc : Scanner} {h : Host} {path : String} {l : Language}
    {text : Except FileError String} {fold : Fold}
    (hfold : fold ∈ (sc.sourceFileOn h path l text).folds) :
    ∃ source regions, text = .ok source ∧ sc.regionsOn h source l = .ok regions ∧
      ∃ f ∈ regions, fold = .locate source.toList f := by
  cases text with
  | error e => cases hfold
  | ok source =>
    cases hregions : sc.regionsOn h source l with
    | error e =>
      rw [sourceFileOn_of_fault hregions] at hfold
      cases hfold
    | ok regions =>
      rw [sourceFileOn_of_regions hregions] at hfold
      obtain ⟨f, hf, rfl⟩ := List.mem_map.1 hfold
      exact ⟨source, regions, rfl, hregions, f, hf, rfl⟩

theorem lineCount_sourceFileOn (sc : Scanner) (h : Host) (path : String) (l : Language)
    (source : String) :
    (sc.sourceFileOn h path l (.ok source)).lineCount = Text.lineCount source.toList := by
  cases hregions : sc.regionsOn h source l with
  | error e => rw [sourceFileOn_of_fault hregions, failedFile]
  | ok regions => rw [sourceFileOn_of_regions hregions, foldedFile]

/-- **Lines of folds.** Whatever the table and the files, and whatever grown trees the host gives, a
fold that a scanner reports of a file, in a scan or by itself, starts where some text of the file is
still to come. Its line is told by the line breaks before it, not all of which need be line feeds,
and the line count of the file by the line feeds before it and the lines behind. So the line is one
of the file's exactly if there are fewer other breaks before the fold than lines behind its start,
and it always is if the file has no other breaks. -/
theorem fold_line_le_iff {sc : Scanner} (hmade : sc.Made) {h : Host} (hh : h.Grows)
    {fs : FileSystem} {file : SourceFile} (hfile : sc.Reports h fs file) {fold : Fold}
    (hfold : fold ∈ file.folds) :
    ∃ source path l before behind, file = sc.sourceFileOn h path l (.ok source) ∧
      source.toList = before ++ behind ∧ Text.byteSize before = fold.region.start ∧ behind ≠ [] ∧
      1 ≤ fold.line ∧ fold.line = before.count '\n' + Text.otherBreaks behind before + 1 ∧
      file.lineCount = before.count '\n' + Text.lineCount behind ∧
      (fold.line ≤ file.lineCount ↔ Text.otherBreaks behind before < Text.lineCount behind) ∧
      (Text.otherBreaks [] source.toList = 0 → fold.line ≤ file.lineCount) := by
  obtain ⟨path, l, text, rfl⟩ := hfile.exists_sourceFileOn
  obtain ⟨source, regions, rfl, hregions, f, hf, rfl⟩ := exists_region_of_mem_folds hfold
  obtain ⟨m, hm⟩ := exists_standsFor hmade hh hregions hf
  obtain ⟨before, after, hcs, hstart, -⟩ := Text.slice?_eq_some_iff.1 hm.own
  rw [List.append_assoc] at hcs
  have hbehind : m.source.toList ++ after ≠ [] :=
    List.append_ne_nil_of_left_ne_nil ((consistent_table hmade).source_ne_nil hm.found) after
  have hline : (Fold.locate source.toList f).line =
      before.count '\n' + Text.otherBreaks (m.source.toList ++ after) before + 1 := by
    rw [← Text.line_position, ← hcs, hstart]
    rfl
  have hcount : (sc.sourceFileOn h path l (.ok source)).lineCount =
      before.count '\n' + Text.lineCount (m.source.toList ++ after) := by
    rw [← Text.lineCount_append before hbehind, ← hcs, lineCount_sourceFileOn]
  have hone := Text.one_le_lineCount hbehind
  refine ⟨source, path, l, before, _, rfl, hcs, hstart, hbehind, ?_, hline, hcount, ?_,
    fun hnone => ?_⟩
  · rw [hline]
    exact Nat.succ_pos _
  · rw [hline, hcount]
    omega
  · rw [hcs, Text.otherBreaks_append, List.append_nil] at hnone
    rw [hline, hcount]
    omega

/-- A file that begins with a form feed. -/
def formFeedFiles : FileSystem where
  working := .directory [("a.py", .file "\x0c>= b".toUTF8)]

theorem exists_fold_formFeedFiles :
    ∃ sc, new .willing formFeedFiles { textMode := true } = .ok sc ∧
      ∃ file, sc.scanFile formFeedFiles "a.py" = .ok file ∧ file.lineCount = 1 ∧
        ∃ fold ∈ file.folds, fold.line = 2 := by
  obtain ⟨sc, hsc⟩ : ∃ sc, new .willing formFeedFiles { textMode := true } = .ok sc := ⟨_, rfl⟩
  have hread : formFeedFiles.readText "a.py" = .ok "\x0c>= b" := rfl
  have hregions : sc.regions "\x0c>= b" .python = [.token ⟨1, 3⟩ "≥"] := by
    rw [regions, (new_eq_ok hsc).1, if_pos rfl, resolver_eq_builtin hsc rfl,
      Pattern.ofTable_builtin]
    decide +kernel
  refine ⟨sc, hsc, _, scanFile_of_language (l := .python) rfl, ?_⟩
  rw [hread]
  refine ⟨rfl, .locate "\x0c>= b".toList (.token ⟨1, 3⟩ "≥"), ?_, by decide⟩
  show _ ∈ locateFolds "\x0c>= b" (sc.regions "\x0c>= b" .python)
  rw [hregions]
  exact List.mem_singleton.2 rfl

/-- Behind the form feed a fold stands on the second line of a file that has one line. -/
theorem not_forall_fold_line_le :
    ¬ ∀ (sc : Scanner) (fs : FileSystem) (file : SourceFile), sc.Made →
      sc.Reports .willing fs file →
      ∀ fold ∈ file.folds, 1 ≤ fold.line ∧ fold.line ≤ file.lineCount := by
  intro h
  obtain ⟨sc, hsc, file, hfile, hcount, fold, hfold, hline⟩ := exists_fold_formFeedFiles
  rw [← scanFileOn_willing] at hfile
  have hle := (h sc formFeedFiles file (made_of_new hsc) (.inr ⟨"a.py", hfile⟩) fold hfold).2
  rw [hline, hcount] at hle
  exact absurd hle (by decide)

theorem fold_line_formFeedFiles :
    ∃ sc, new .willing formFeedFiles { textMode := true } = .ok sc ∧
      ∃ file, sc.scanFile formFeedFiles "a.py" = .ok file ∧
        ∃ fold ∈ file.folds, fold.line = 2 ∧ file.lineCount = 1 ∧
          ∃ (source : String) (before behind : List Char), source.toList = before ++ behind ∧
            Text.byteSize before = fold.region.start ∧ Text.otherBreaks behind before = 1 ∧
            Text.lineCount behind = 1 := by
  obtain ⟨sc, hsc, file, hfile, hcount, fold, hfold, hline⟩ := exists_fold_formFeedFiles
  have hreports : sc.Reports .willing formFeedFiles file :=
    .inr ⟨"a.py", by rw [scanFileOn_willing, hfile]⟩
  obtain ⟨source, path, l, before, behind, -, hcs, hstart, hbehind, -, hfoldLine, hfileCount, -⟩ :=
    fold_line_le_iff (made_of_new hsc) Host.grows_willing hreports hfold
  have hone := Text.one_le_lineCount hbehind
  refine ⟨sc, hsc, file, hfile, fold, hfold, hline, hcount, source, before, behind, hcs, hstart,
    ?_, ?_⟩
  · omega
  · omega

end Scanner

end GlyphFold
