import GlyphFold.Proofs.ReportCounts
import GlyphFold.Proofs.ScannedFiles
import GlyphFold.Scan.Host

/-!
# Failures stay with their file

Two scans of a project in which one file differs: in its bytes, or in whether the host lets it be
read. They report the same files, and differ in the entry of that file and in what it adds to the
counts.

1. `FileTree.withBytes`, `Scan.sourceFiles_withBytes`: other bytes at a place, and what a walk finds
2. `SourceFile.Settled`: entries that are parsed, or say why not and have no folds
3. `Host.AgreeOff`, `Scanner.foundFileOn_agree`: hosts that agree on all other files
4. `Scanner.entriesOn_split`, `Scanner.scanOn_failures_local`: the two reports
-/

namespace GlyphFold

/-! ## Other bytes at a place -/

namespace FileTree

/-- The tree with other bytes in the file at a place. Without a file there it is the same tree. -/
def withBytes (bytes : ByteArray) : List String → FileTree → FileTree
  | [], .file _ => .file bytes
  | [], .directory entries => .directory entries
  | _ :: _, .file old => .file old
  | name :: rest, .directory entries =>
    .directory (entries.map fun e => if e.1 = name then (e.1, withBytes bytes rest e.2) else e)

theorem isDirectory_withBytes (bytes : ByteArray) (place : List String) (t : FileTree) :
    (t.withBytes bytes place).isDirectory = t.isDirectory := by
  cases place <;> cases t <;> rfl

end FileTree

namespace FoundFile

/-- The file, with other bytes if it lies at the place. -/
def withBytes (bytes : ByteArray) (place : List String) (x : FoundFile) : FoundFile :=
  if x.place = place then { x with bytes := bytes } else x

variable {bytes : ByteArray} {place : List String} {x : FoundFile}

theorem withBytes_of_ne (h : x.place ≠ place) : x.withBytes bytes place = x := if_neg h

@[simp] theorem place_withBytes : (x.withBytes bytes place).place = x.place := by
  unfold withBytes
  split <;> rfl

@[simp] theorem path_withBytes : (x.withBytes bytes place).path = x.path := by
  unfold withBytes
  split <;> rfl

theorem map_withBytes_of_ne {files : List FoundFile} (h : ∀ x ∈ files, x.place ≠ place) :
    files.map (withBytes bytes place) = files :=
  (List.map_congr_left fun x hx => withBytes_of_ne (h x hx)).trans (List.map_id' files)

end FoundFile

namespace Scan

variable {s : Settings} {f : Ignore.Filter} {bytes : ByteArray}

theorem visit_withBytes (place : List String) (path : String) (old : ByteArray) :
    visit s f place path bytes = (visit s f place path old).map (.withBytes bytes place) := by
  unfold visit
  split
  · rfl
  · cases Language.ofPath? path with
    | none => rfl
    | some l => simp [FoundFile.withBytes]

/-- The files below an entry lie below its name. -/
theorem place_of_mem_walkEntries {entries : List (String × FileTree)}
    (hentries : ∀ e ∈ entries, e.2.Proper) {above : List String} {path : String} {x : FoundFile}
    (hx : x ∈ walkEntries s f above path entries) :
    ∃ e ∈ entries, ∃ rest, x.place = above ++ e.1 :: rest := by
  obtain ⟨name, t, hentry, -, hx⟩ := mem_walkEntries.1 hx
  obtain ⟨rest, hplace⟩ := place_of_mem_walk (hentries _ hentry) hx
  exact ⟨_, hentry, rest, by rw [hplace, List.append_assoc, List.singleton_append]⟩

theorem walkEntries_withBytes {name : String} {rest : List String}
    (hwalk : ∀ {t : FileTree}, t.Proper → ∀ above path,
      walk s f above path (t.withBytes bytes rest) =
        (walk s f above path t).map (.withBytes bytes (above ++ rest)))
    {entries : List (String × FileTree)} (hentries : ∀ e ∈ entries, e.2.Proper)
    (above : List String) (path : String) :
    walkEntries s f above path
        (entries.map fun e => if e.1 = name then (e.1, e.2.withBytes bytes rest) else e) =
      (walkEntries s f above path entries).map (.withBytes bytes (above ++ name :: rest)) := by
  induction entries with
  | nil => rfl
  | cons e entries ih =>
    obtain ⟨n, u⟩ := e
    obtain ⟨hu, hentries⟩ := List.forall_mem_cons.1 hentries
    rw [List.map_cons]
    by_cases hn : n = name
    · subst hn
      rw [if_pos rfl, walkEntries, walkEntries, ih hentries, List.map_append,
        FileTree.isDirectory_withBytes, hwalk hu, List.append_assoc, List.singleton_append]
      split <;> rfl
    · -- what lies below another name is not at the place
      rw [if_neg hn, walkEntries, walkEntries, ih hentries, List.map_append]
      refine congrArg (· ++ _) (FoundFile.map_withBytes_of_ne fun x hx hplace => ?_).symm
      split at hx
      · cases hx
      · obtain ⟨below, hbelow⟩ := place_of_mem_walk hu hx
        rw [hbelow, List.append_assoc, List.append_cancel_left_eq] at hplace
        exact hn (List.cons.inj hplace).1

/-- A walk finds the same files, with the other bytes in the one at the place. -/
theorem walk_withBytes (place : List String) {t : FileTree} (ht : t.Proper) (above : List String)
    (path : String) :
    walk s f above path (t.withBytes bytes place) =
      (walk s f above path t).map (.withBytes bytes (above ++ place)) := by
  induction place generalizing t above path with
  | nil =>
    rw [List.append_nil]
    cases ht with
    | file old =>
      rw [FileTree.withBytes, walk, walk]
      exact visit_withBytes above path old
    | directory _ _ hentries =>
      rw [FileTree.withBytes, walk, FoundFile.map_withBytes_of_ne]
      intro x hx hplace
      obtain ⟨e, -, rest, hrest⟩ := place_of_mem_walkEntries hentries hx
      exact List.cons_ne_nil _ _ (List.self_eq_append_right.1 (hplace.symm.trans hrest))
  | cons name rest ih =>
    cases ht with
    | file old =>
      rw [FileTree.withBytes, walk, FoundFile.map_withBytes_of_ne]
      intro x hx hplace
      obtain ⟨-, l, -, -, rfl⟩ := mem_visit.1 hx
      exact List.cons_ne_nil _ _ (List.self_eq_append_right.1 hplace)
    | directory _ _ hentries =>
      rw [FileTree.withBytes, walk, walk]
      exact walkEntries_withBytes (fun ht => ih ht) hentries above path

/-- The files of a project in which the bytes at a place are others. -/
theorem sourceFiles_withBytes {fs fs' : FileSystem} (hfs : fs.Proper) {place : List String}
    (htree : fs'.node? s.root = (fs.node? s.root).map (.withBytes bytes place)) :
    sourceFiles fs' s f = (sourceFiles fs s f).map (.withBytes bytes place) := by
  unfold sourceFiles
  rw [htree]
  cases ht : fs.node? s.root with
  | error e => rfl
  | ok t =>
    simp only [Except.map]
    rw [walk_withBytes place (hfs.of_node? ht), List.nil_append]
    refine (List.map_mergeSort fun a _ b _ => ?_).symm
    rw [FoundFile.place_withBytes, FoundFile.place_withBytes]

end Scan

/-! ## Entries -/

namespace SourceFile

/-- The entry has no error exactly if the file is parsed, and it has no folds if it is not. -/
structure Settled (e : SourceFile) : Prop where
  parsed_iff : e.parsed = true ↔ e.error = none
  folds_eq_nil : e.parsed = false → e.folds = []

/-- The path that is shown, and the path from the root. -/
def paths (e : SourceFile) : String × String := (e.path, e.fullPath)

end SourceFile

/-- The hosts have the same parsers, and let the same files be read but for the one at a place. -/
structure Host.AgreeOff (place : List String) (h h' : Host) : Prop where
  parse : h'.parse = h.parse
  refusal : ∀ q, q ≠ place → h'.refusal? q = h.refusal? q

/-- What a file adds to the counts does not depend on where it stands. -/
theorem Stats.isSum_insert (before after : List SourceFile) (e : SourceFile) :
    (ofFiles (before ++ e :: after)).IsSum (ofFiles (before ++ after)) (ofFiles [e]) := by
  rw [ofFiles_congr (List.perm_middle.trans (List.perm_append_singleton e _).symm)]
  exact isSum_append _ _

namespace Scanner

variable {sc : Scanner} {fs fs' : FileSystem} {h h' : Host} {place : List String}
  {bytes : ByteArray}

theorem settled_foundFileOn (sc : Scanner) (h : Host) (x : FoundFile) :
    (sc.foundFileOn h x).Settled := by
  have hfailed (lineCount : Nat) (error : String) :
      (sc.failedFile x.path x.language lineCount error).Settled :=
    ⟨⟨nofun, nofun⟩, fun _ => rfl⟩
  unfold foundFileOn sourceFileOn
  split
  · exact hfailed _ _
  · split
    · exact hfailed _ _
    · exact ⟨⟨fun _ => rfl, fun _ => rfl⟩, nofun⟩

/-- The entry of another file is the same on both hosts. -/
theorem foundFileOn_agree (hh : h.AgreeOff place h') {x : FoundFile} (hx : x.place ≠ place) :
    sc.foundFileOn h' (x.withBytes bytes place) = sc.foundFileOn h x := by
  have htext : h'.textOf x = h.textOf x := by
    unfold Host.textOf Host.unlessRefused
    rw [hh.refusal _ hx]
  have hregions : sc.regionsOn h' = sc.regionsOn h := by
    unfold regionsOn
    rw [hh.parse]
  unfold foundFileOn sourceFileOn
  rw [FoundFile.withBytes_of_ne hx, htext, hregions]

/-! ## Reports -/

theorem path_of_mem_sourceFiles (hfs : fs.Proper) {x : FoundFile}
    (hx : x ∈ Scan.sourceFiles fs sc.settings sc.filter) :
    x.path = Path.joinAll sc.settings.root x.place := by
  obtain ⟨t, place, bytes, -, -, -, hvisit⟩ := (Scan.mem_sourceFiles hfs).1 hx
  obtain ⟨-, l, -, -, rfl⟩ := Scan.mem_visit.1 hvisit
  rfl

/-- Files of a project with the same path lie at the same place. -/
theorem place_eq_of_path_eq (hfs : fs.Proper) {x y : FoundFile}
    (hx : x ∈ Scan.sourceFiles fs sc.settings sc.filter)
    (hy : y ∈ Scan.sourceFiles fs sc.settings sc.filter) (hpath : y.path = x.path) :
    y.place = x.place := by
  have hcomponents := components_of_mem_sourceFiles hfs hx
  rw [← hpath, components_of_mem_sourceFiles hfs hy] at hcomponents
  exact List.append_cancel_left hcomponents

/-- A file that the scan takes in lies at the place. -/
def TakesInAt (sc : Scanner) (fs : FileSystem) (place : List String) : Prop :=
  ∃ t old l, fs.node? sc.settings.root = .ok t ∧ t.HasFile place old ∧ sc.TakesIn place l

theorem exists_found_iff (hfs : fs.Proper) :
    (∃ x ∈ Scan.sourceFiles fs sc.settings sc.filter, x.place = place) ↔
      sc.TakesInAt fs place := by
  constructor
  · rintro ⟨x, hx, rfl⟩
    obtain ⟨t, place, old, ht, hfile, hopen, hvisit⟩ := (Scan.mem_sourceFiles hfs).1 hx
    obtain ⟨hkept, l, hl, hasked, rfl⟩ := Scan.mem_visit.1 hvisit
    exact ⟨t, old, l, ht, hfile, hl, hasked, hkept, hopen⟩
  · rintro ⟨t, old, l, ht, hfile, htaken⟩
    exact ⟨_, (Scan.mem_sourceFiles hfs).2 ⟨t, place, old, ht, hfile, htaken.reached,
      Scan.mem_visit.2 ⟨htaken.kept, l, htaken.language, htaken.asked, rfl⟩⟩, rfl⟩

/-- At most one file of a project lies at a place. -/
theorem sourceFiles_split (sc : Scanner) (hfs : fs.Proper) (place : List String) :
    (∀ x ∈ Scan.sourceFiles fs sc.settings sc.filter, x.place ≠ place) ∨
      ∃ before x after, Scan.sourceFiles fs sc.settings sc.filter = before ++ x :: after ∧
        x.place = place ∧ ∀ y ∈ before ++ after, y.place ≠ place := by
  by_cases hnone : ∀ x ∈ Scan.sourceFiles fs sc.settings sc.filter, x.place ≠ place
  · exact .inl hnone
  · push Not at hnone
    obtain ⟨x, hx, rfl⟩ := hnone
    obtain ⟨before, after, hsplit⟩ := List.append_of_mem hx
    have hincreasing := Scan.sourceFiles_increasing (s := sc.settings) (f := sc.filter) hfs
    rw [hsplit, List.pairwise_append, List.pairwise_cons] at hincreasing
    obtain ⟨-, ⟨hafter, -⟩, hbefore⟩ := hincreasing
    refine .inr ⟨before, x, after, hsplit, rfl, fun y hy hplace => ?_⟩
    rcases List.mem_append.1 hy with hy | hy
    · exact Path.not_before_self _ (hplace ▸ hbefore y hy x List.mem_cons_self)
    · exact Path.not_before_self _ (hplace ▸ hafter y hy)

theorem settled_of_mem_entriesOn {e : SourceFile} (he : e ∈ sc.entriesOn h fs) : e.Settled := by
  obtain ⟨x, -, rfl⟩ := List.mem_map.1 he
  exact sc.settled_foundFileOn h x

theorem entriesOn_withBytes (h' : Host) (hfs : fs.Proper)
    (htree : fs'.node? sc.settings.root =
      (fs.node? sc.settings.root).map (.withBytes bytes place)) :
    sc.entriesOn h' fs' = (Scan.sourceFiles fs sc.settings sc.filter).map fun x =>
      sc.foundFileOn h' (x.withBytes bytes place) := by
  rw [entriesOn, Scan.sourceFiles_withBytes hfs htree, List.map_map]
  rfl

/-- The entries on both hosts are the same but for the one of the file, if there is one. -/
theorem entriesOn_split (hfs : fs.Proper)
    (htree : fs'.node? sc.settings.root =
      (fs.node? sc.settings.root).map (.withBytes bytes place)) (hh : h.AgreeOff place h') :
    (¬ sc.TakesInAt fs place ∧ sc.entriesOn h' fs' = sc.entriesOn h fs) ∨
    sc.TakesInAt fs place ∧ ∃ before e e' after,
      sc.entriesOn h fs = before ++ e :: after ∧ sc.entriesOn h' fs' = before ++ e' :: after ∧
      e.fullPath = Path.joinAll sc.settings.root place ∧
      e'.fullPath = Path.joinAll sc.settings.root place ∧
      ∀ other ∈ before ++ after, other.fullPath ≠ Path.joinAll sc.settings.root place := by
  have hagree {files : List FoundFile} (hne : ∀ x ∈ files, x.place ≠ place) :
      (files.map fun x => sc.foundFileOn h' (x.withBytes bytes place)) =
        files.map (sc.foundFileOn h) :=
    List.map_congr_left fun x hx => foundFileOn_agree hh (hne x hx)
  rw [entriesOn_withBytes h' hfs htree]
  rcases sourceFiles_split sc hfs place with hne | ⟨before, x, after, hsplit, rfl, hne⟩
  · refine .inl ⟨fun htaken => ?_, hagree hne⟩
    obtain ⟨x, hx, hplace⟩ := (exists_found_iff hfs).2 htaken
    exact hne x hx hplace
  · have hx : x ∈ Scan.sourceFiles fs sc.settings sc.filter := by simp [hsplit]
    have hpath := path_of_mem_sourceFiles hfs hx
    obtain ⟨hbefore, hafter⟩ := List.forall_mem_append.1 hne
    refine .inr ⟨(exists_found_iff hfs).1 ⟨x, hx, rfl⟩, before.map (sc.foundFileOn h),
      sc.foundFileOn h x, sc.foundFileOn h' (x.withBytes bytes x.place),
      after.map (sc.foundFileOn h), ?_, ?_, ?_, ?_, ?_⟩
    · rw [entriesOn, hsplit, List.map_append, List.map_cons]
    · rw [hsplit, List.map_append, List.map_cons, hagree hbefore, hagree hafter]
    · rw [fullPath_foundFileOn, hpath]
    · rw [fullPath_foundFileOn, FoundFile.path_withBytes, hpath]
    · intro other hother heq
      rw [← List.map_append] at hother
      obtain ⟨y, hy, rfl⟩ := List.mem_map.1 hother
      have hmem : y ∈ Scan.sourceFiles fs sc.settings sc.filter := by
        rw [hsplit]
        rcases List.mem_append.1 hy with hy | hy
        · exact List.mem_append_left _ hy
        · exact List.mem_append_right _ (List.mem_cons_of_mem _ hy)
      rw [fullPath_foundFileOn, ← hpath] at heq
      exact hne y hy (place_eq_of_path_eq hfs hx hmem heq)

theorem paths_entriesOn (hfs : fs.Proper)
    (htree : fs'.node? sc.settings.root =
      (fs.node? sc.settings.root).map (.withBytes bytes place)) :
    (sc.entriesOn h' fs').map SourceFile.paths = (sc.entriesOn h fs).map SourceFile.paths := by
  rw [entriesOn_withBytes h' hfs htree, entriesOn, List.map_map, List.map_map]
  refine List.map_congr_left fun x _ => ?_
  rw [Function.comp, Function.comp, SourceFile.paths, SourceFile.paths, path_foundFileOn,
    path_foundFileOn, fullPath_foundFileOn, fullPath_foundFileOn, FoundFile.path_withBytes]

/-- **Failures stay with their file.** Let the bytes of one file differ, and whether and how the
host refuses it. Both scans give a report, and the reports show the same paths in the same order.
If the scan does not take the file in, they have the same entries and counts. If it does, its entries
stand in the same position among entries that are the same and of other files, and the counts are
those of the other entries and, in each report, of its own entry of the file. An entry has an error
exactly if it is not parsed, and then it has no folds. -/
theorem scanOn_failures_local (hfs : fs.Proper)
    (htree : fs'.node? sc.settings.root =
      (fs.node? sc.settings.root).map (.withBytes bytes place)) (hh : h.AgreeOff place h')
    (times times' : ScanTimes) :
    ∃ report report', sc.scanOn h fs times = .ok report ∧ sc.scanOn h' fs' times' = .ok report' ∧
      report'.files.map SourceFile.paths = report.files.map SourceFile.paths ∧
      (∀ e ∈ report.files ++ report'.files, e.Settled) ∧
      ((¬ sc.TakesInAt fs place ∧ report'.files = report.files ∧ report'.stats = report.stats) ∨
      sc.TakesInAt fs place ∧ ∃ before e e' after,
        report.files = before ++ e :: after ∧ report'.files = before ++ e' :: after ∧
        e.fullPath = Path.joinAll sc.settings.root place ∧
        e'.fullPath = Path.joinAll sc.settings.root place ∧
        (∀ other ∈ before ++ after, other.fullPath ≠ Path.joinAll sc.settings.root place) ∧
        report.stats.IsSum (.ofFiles (before ++ after)) (.ofFiles [e]) ∧
        report'.stats.IsSum (.ofFiles (before ++ after)) (.ofFiles [e'])) := by
  obtain ⟨report, hscan, hfiles, hstats⟩ := sc.exists_scanOn h fs times
  obtain ⟨report', hscan', hfiles', hstats'⟩ := sc.exists_scanOn h' fs' times'
  refine ⟨report, report', hscan, hscan', ?_, ?_, ?_⟩
  · rw [hfiles, hfiles']
    exact paths_entriesOn hfs htree
  · rw [hfiles, hfiles']
    exact List.forall_mem_append.2
      ⟨fun _ => settled_of_mem_entriesOn, fun _ => settled_of_mem_entriesOn⟩
  · rw [hfiles, hfiles', hstats, hstats']
    rcases entriesOn_split hfs htree hh with
      ⟨hnone, hsame⟩ | ⟨htaken, before, e, e', after, he, he', hpath, hpath', hother⟩
    · rw [hsame]
      exact .inl ⟨hnone, rfl, rfl⟩
    · rw [he, he']
      exact .inr ⟨htaken, before, e, e', after, rfl, rfl, hpath, hpath', hother,
        Stats.isSum_insert before after e, Stats.isSum_insert before after e'⟩

/-- A project with two scripts. -/
def twoScripts : FileSystem where
  working := .directory [("a.py", .file "a >= b".toUTF8), ("b.py", .file "b".toUTF8)]

theorem proper_twoScripts : twoScripts.Proper := by
  refine ⟨.directory (by decide) (by decide) (List.forall_mem_cons.2 ⟨.file _,
    List.forall_mem_singleton.2 (.file _)⟩),
    .directory (by decide) (by decide) fun e he => absurd he List.not_mem_nil⟩

/-- Refuses to open the first script. -/
def closedScript : Host where
  refusal? place := if place = ["a.py"] then some .denied else none
  parse l source := .ok (l.tokenTree source)

theorem node?_twoScripts : twoScripts.node? "." = .ok twoScripts.working := by
  rw [FileSystem.node?, if_neg (by decide)]
  rfl

/-- A scanner that leaves nothing out finds both scripts. -/
theorem mem_twoScripts {r : Resolver}
    (hsc : withResolver twoScripts { includeDeps := true } r = .ok sc) :
    ⟨["a.py"], "./a.py", .python, "a >= b".toUTF8⟩ ∈
        Scan.sourceFiles twoScripts sc.settings sc.filter ∧
      ⟨["b.py"], "./b.py", .python, "b".toUTF8⟩ ∈
        Scan.sourceFiles twoScripts sc.settings sc.filter := by
  obtain ⟨f, hf, rfl⟩ := withResolver_eq_ok_iff.1 hsc
  have hkept : (Ignore.Filter.new twoScripts { includeDeps := true }).toOption.map (fun f =>
      (f.ignores "./a.py" false, f.ignores "./b.py" false)) = some (false, false) := by
    decide +kernel
  rw [hf] at hkept
  obtain ⟨ha, hb⟩ : f.ignores "./a.py" false = false ∧ f.ignores "./b.py" false = false := by
    simpa [Except.toOption] using hkept
  have hfound {name path : String} {bytes : ByteArray}
      (hfile : twoScripts.working.HasFile [name] bytes) (hpath : Path.joinAll "." [name] = path)
      (hlanguage : Language.ofPath? path = some .python) (hkept : f.ignores path false = false) :
      ⟨[name], path, .python, bytes⟩ ∈ Scan.sourceFiles twoScripts { includeDeps := true } f := by
    refine (Scan.mem_sourceFiles proper_twoScripts).2
      ⟨_, [name], bytes, node?_twoScripts, hfile, ?_, ?_⟩
    · exact Scan.open_cons.2 ⟨fun hnil => absurd rfl hnil, Scan.open_nil _ _⟩
    · rw [hpath, Scan.mem_visit]
      exact ⟨hkept, .python, hlanguage, fun languages hasked => absurd hasked (by simp), rfl⟩
  exact ⟨hfound (.inside (.head _) (.here _)) (by decide +kernel) (by decide +kernel) ha,
    hfound (.inside (.tail _ (.head _)) (.here _)) (by decide +kernel) (by decide +kernel) hb⟩

/-- A host that closes the first script: its entry says so, and the entry of the other one stays. -/
theorem scanOn_twoScripts :
    ∃ sc, withResolver twoScripts { includeDeps := true } ⟨.builtin, .builtin, .ofTable .builtin⟩ =
        .ok sc ∧
      ∀ times times', ∃ report report', sc.scanOn .willing twoScripts times = .ok report ∧
        sc.scanOn closedScript twoScripts times' = .ok report' ∧
        report'.files.map SourceFile.paths = report.files.map SourceFile.paths ∧
        (∃ e ∈ report.files, e.fullPath = "./a.py" ∧ e.parsed = true) ∧
        (∃ e ∈ report'.files, e.fullPath = "./a.py" ∧ e.folds = [] ∧
          e.error = some "Permission denied (os error 13)") ∧
        ∃ e ∈ report.files, e ∈ report'.files ∧ e.fullPath = "./b.py" := by
  obtain ⟨sc, hsc⟩ : ∃ sc, withResolver twoScripts { includeDeps := true }
    ⟨.builtin, .builtin, .ofTable .builtin⟩ = .ok sc := ⟨_, rfl⟩
  refine ⟨sc, hsc, fun times times' => ?_⟩
  have hroot : sc.settings.root = "." := by
    obtain ⟨f, -, rfl⟩ := withResolver_eq_ok_iff.1 hsc
    rfl
  obtain ⟨ha, hb⟩ := mem_twoScripts hsc
  have htree : twoScripts.node? sc.settings.root =
      (twoScripts.node? sc.settings.root).map (.withBytes "a >= b".toUTF8 ["a.py"]) := by
    rw [hroot, node?_twoScripts]
    rfl
  have hagree : Host.willing.AgreeOff ["a.py"] closedScript := ⟨rfl, fun q hq => if_neg hq⟩
  obtain ⟨report, report', hscan, hscan', hpaths, hsettled, hfiles⟩ :=
    scanOn_failures_local proper_twoScripts htree hagree times times'
  have hentries : report.files = sc.entriesOn .willing twoScripts := by
    cases hscan
    rfl
  have hentries' : report'.files = sc.entriesOn closedScript twoScripts := by
    cases hscan'
    rfl
  have hmem {x : FoundFile} (hx : x ∈ Scan.sourceFiles twoScripts sc.settings sc.filter) :
      sc.foundFileOn .willing x ∈ report.files ∧ sc.foundFileOn closedScript x ∈ report'.files := by
    rw [hentries, hentries']
    exact ⟨List.mem_map_of_mem hx, List.mem_map_of_mem hx⟩
  have hclosed := (hsettled _ (List.mem_append_right _ (hmem ha).2)).folds_eq_nil rfl
  refine ⟨report, report', hscan, hscan', hpaths, ⟨_, (hmem ha).1, ?_, ?_⟩,
    ⟨_, (hmem ha).2, ?_, hclosed, rfl⟩, ⟨_, (hmem hb).1, ?_, ?_⟩⟩
  · rw [fullPath_foundFileOn]
  · rw [foundFileOn_willing]
    rfl
  · rw [fullPath_foundFileOn]
  · rcases hfiles with ⟨-, hsame, -⟩ | ⟨-, before, e, e', after, he, he', hpath, -, -⟩
    · rw [hsame]
      exact (hmem hb).1
    · have hopen := (hmem hb).1
      have hplace : Path.joinAll "." ["a.py"] = "./a.py" := by decide +kernel
      rw [hroot, hplace] at hpath
      rw [he']
      rw [he, List.mem_append, List.mem_cons] at hopen
      rcases hopen with hopen | rfl | hopen
      · exact List.mem_append_left _ hopen
      · rw [fullPath_foundFileOn] at hpath
        exact absurd hpath (by decide)
      · exact List.mem_append_right _ (List.mem_cons_of_mem _ hopen)
  · rw [fullPath_foundFileOn]

end Scanner

end GlyphFold
