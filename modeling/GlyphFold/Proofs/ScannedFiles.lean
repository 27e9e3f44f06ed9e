import GlyphFold.Proofs.FilePlaces
import GlyphFold.Proofs.WorkerPools
import GlyphFold.Scan.Host

/-!
# What a scan takes in

A scan reports the files of a project that it takes in, each once and by its place. How a directory
lists its entries and how many workers share the files makes no difference.

1. `Scan.mem_walk`: the files that a walk finds
2. `Scan.sourceFiles_increasing`, `Scan.sourceFiles_congr`: every place once, in order
3. `Scanner.mem_entriesOn`: the entries of a report
4. `Scanner.scan_files`: the entries, their order, and what they do not depend on
-/

namespace GlyphFold

namespace FileTree

theorem HasFile.isDirectory_iff {t : FileTree} {place : List String} {bytes : ByteArray}
    (h : t.HasFile place bytes) : t.isDirectory = true ↔ place ≠ [] := by
  cases h with
  | here bytes => simp [FileTree.isDirectory]
  | inside hentry h => simp [FileTree.isDirectory]

theorem hasFile_directory_iff {entries : List (String × FileTree)} {place : List String}
    {bytes : ByteArray} :
    (FileTree.directory entries).HasFile place bytes ↔
      ∃ name t rest, (name, t) ∈ entries ∧ t.HasFile rest bytes ∧ place = name :: rest := by
  constructor
  · intro h
    cases h with
    | inside hentry h => exact ⟨_, _, _, hentry, h, rfl⟩
  · rintro ⟨name, t, rest, hentry, h, rfl⟩
    exact .inside hentry h

end FileTree

namespace Scan

variable {s : Settings} {f : Ignore.Filter}

/-- No directory on the way from a path down to a place is left out. -/
def Open (f : Ignore.Filter) (path : String) (place : List String) : Prop :=
  ∀ above below, place = above ++ below → above ≠ [] → below ≠ [] →
    f.ignores (Path.joinAll path above) true = false

theorem open_nil (f : Ignore.Filter) (path : String) : Open f path [] := by
  intro above below h habove
  exact absurd (List.append_eq_nil_iff.1 h.symm).1 habove

theorem open_cons {path name : String} {rest : List String} :
    Open f path (name :: rest) ↔
      (rest ≠ [] → f.ignores (Path.join path name) true = false) ∧
        Open f (Path.join path name) rest := by
  constructor
  · intro h
    refine ⟨fun hrest => h [name] rest rfl (List.cons_ne_nil _ _) hrest, ?_⟩
    intro above below hsplit _ hbelow
    exact h (name :: above) below (by rw [hsplit]; rfl) (List.cons_ne_nil _ _) hbelow
  · rintro ⟨hname, hrest⟩ above below hsplit habove hbelow
    obtain ⟨n, above, rfl⟩ := List.exists_cons_of_ne_nil habove
    obtain ⟨rfl, rfl⟩ := List.cons.inj hsplit
    cases above with
    | nil => exact hname hbelow
    | cons m above => exact hrest _ below rfl (List.cons_ne_nil _ _) hbelow

theorem mem_visit {place : List String} {path : String} {bytes : ByteArray} {x : FoundFile} :
    x ∈ visit s f place path bytes ↔ f.ignores path false = false ∧
      ∃ l, Language.ofPath? path = some l ∧ (∀ ls, s.languages = some ls → l ∈ ls) ∧
        x = ⟨place, path, l, bytes⟩ := by
  unfold visit Settings.admits
  cases f.ignores path false <;> cases Language.ofPath? path <;> cases s.languages <;> simp

theorem mem_walkEntries {place : List String} {path : String} {x : FoundFile}
    {entries : List (String × FileTree)} :
    x ∈ walkEntries s f place path entries ↔ ∃ name t, (name, t) ∈ entries ∧
      (t.isDirectory = true → f.ignores (Path.join path name) true = false) ∧
        x ∈ walk s f (place ++ [name]) (Path.join path name) t := by
  induction entries with
  | nil => simp [walkEntries]
  | cons e entries ih =>
    obtain ⟨n, u⟩ := e
    have hhead : x ∈ (if u.isDirectory && f.ignores (Path.join path n) true then []
          else walk s f (place ++ [n]) (Path.join path n) u) ↔
        (u.isDirectory = true → f.ignores (Path.join path n) true = false) ∧
          x ∈ walk s f (place ++ [n]) (Path.join path n) u := by
      cases u.isDirectory <;> cases f.ignores (Path.join path n) true <;> simp
    rw [walkEntries, List.mem_append, hhead, ih]
    constructor
    · rintro (⟨hdir, hx⟩ | ⟨name, t, hentry, hx⟩)
      · exact ⟨n, u, List.mem_cons_self, hdir, hx⟩
      · exact ⟨name, t, List.mem_cons_of_mem _ hentry, hx⟩
    · rintro ⟨name, t, hentry, hx⟩
      rcases List.mem_cons.1 hentry with hentry | hentry
      · cases hentry
        exact .inl hx
      · exact .inr ⟨name, t, hentry, hx⟩

/-- A walk finds the files below a path that it gets to and that are not left out themselves. -/
theorem mem_walk {t : FileTree} (ht : t.Proper) {place : List String} {path : String}
    {x : FoundFile} :
    x ∈ walk s f place path t ↔ ∃ rest bytes, t.HasFile rest bytes ∧ Open f path rest ∧
      x ∈ visit s f (place ++ rest) (Path.joinAll path rest) bytes := by
  induction ht generalizing place path with
  | file bytes =>
    rw [walk]
    constructor
    · intro h
      exact ⟨[], bytes, .here bytes, open_nil f path, by rwa [List.append_nil]⟩
    · rintro ⟨rest, bytes', hfile, -, h⟩
      cases hfile
      rwa [List.append_nil] at h
  | @directory entries _ _ _ ih =>
    rw [walk, mem_walkEntries]
    constructor
    · rintro ⟨name, t, hentry, hdir, hx⟩
      obtain ⟨rest, bytes, hfile, hopen, hx⟩ := (ih _ hentry).1 hx
      refine ⟨name :: rest, bytes, .inside hentry hfile, open_cons.2 ⟨fun hrest => ?_, hopen⟩, ?_⟩
      · exact hdir (hfile.isDirectory_iff.2 hrest)
      · rwa [List.append_assoc] at hx
    · rintro ⟨place', bytes, hbelow, hopen, hx⟩
      obtain ⟨name, t, rest, hentry, hfile, rfl⟩ := FileTree.hasFile_directory_iff.1 hbelow
      obtain ⟨hname, hopen⟩ := open_cons.1 hopen
      refine ⟨name, t, hentry, fun hdir => hname (hfile.isDirectory_iff.1 hdir), ?_⟩
      refine (ih _ hentry).2 ⟨rest, bytes, hfile, hopen, ?_⟩
      rwa [List.append_assoc]

/-! ## Order -/

theorem place_of_mem_walk {t : FileTree} (ht : t.Proper) {place : List String} {path : String}
    {x : FoundFile} (hx : x ∈ walk s f place path t) : ∃ rest, x.place = place ++ rest := by
  obtain ⟨rest, bytes, -, -, hx⟩ := (mem_walk ht).1 hx
  obtain ⟨-, l, -, -, rfl⟩ := mem_visit.1 hx
  exact ⟨rest, rfl⟩

theorem walkEntries_distinct {entries : List (String × FileTree)}
    (hdistinct : (entries.map Prod.fst).Nodup) (hentries : ∀ e ∈ entries, e.2.Proper)
    {place : List String} {path : String}
    (hbelow : ∀ e ∈ entries, ∀ place path,
      (walk s f place path e.2).Pairwise fun a b => a.place ≠ b.place) :
    (walkEntries s f place path entries).Pairwise fun a b => a.place ≠ b.place := by
  induction entries with
  | nil =>
    rw [walkEntries]
    exact .nil
  | cons e entries ih =>
    obtain ⟨n, u⟩ := e
    obtain ⟨hn, hdistinct⟩ := List.nodup_cons.1 hdistinct
    obtain ⟨hu, hentries⟩ := List.forall_mem_cons.1 hentries
    obtain ⟨hwalk, hbelow⟩ := List.forall_mem_cons.1 hbelow
    rw [walkEntries, List.pairwise_append]
    refine ⟨?_, ih hdistinct hentries hbelow, fun a ha b hb hplace => ?_⟩
    · split
      · exact .nil
      · exact hwalk _ _
    · -- the places differ where the names of the entries do
      obtain ⟨name, t, hentry, -, hb⟩ := mem_walkEntries.1 hb
      have ha : a ∈ walk s f (place ++ [n]) (Path.join path n) u := by
        split at ha
        · cases ha
        · exact ha
      obtain ⟨rest, hrest⟩ := place_of_mem_walk hu ha
      obtain ⟨rest', hrest'⟩ := place_of_mem_walk (hentries _ hentry) hb
      rw [hrest, hrest', List.append_assoc, List.append_assoc] at hplace
      obtain rfl : n = name := (List.cons.inj (List.append_cancel_left hplace)).1
      exact hn (List.mem_map.2 ⟨_, hentry, rfl⟩)

/-- No two files that a walk finds have the same place. -/
theorem walk_distinct {t : FileTree} (ht : t.Proper) (place : List String) (path : String) :
    (walk s f place path t).Pairwise fun a b => a.place ≠ b.place := by
  induction ht generalizing place path with
  | file bytes =>
    rw [walk]
    unfold visit
    split
    · exact .nil
    · split
      · exact List.pairwise_singleton _ _
      · exact .nil
  | directory _ hdistinct hentries ih =>
    rw [walk]
    exact walkEntries_distinct hdistinct hentries ih

/-- Sorted by their places, files with different places stand in increasing order. -/
theorem mergeSort_increasing {files : List FoundFile}
    (h : files.Pairwise fun a b => a.place ≠ b.place) :
    (files.mergeSort fun a b => !b.place.lex a.place).Pairwise
      fun a b => Path.Before a.place b.place := by
  have hle (a b : FoundFile) :
      (!b.place.lex a.place) = true ↔ ¬ Path.Before b.place a.place := by
    rw [Bool.not_eq_true', ← Bool.not_eq_true, Path.Before]
  have hsorted : (files.mergeSort fun a b => !b.place.lex a.place).Pairwise
      fun a b => (!b.place.lex a.place) = true := by
    refine List.pairwise_mergeSort (fun a b c hab hbc => ?_) (fun a b => ?_) files
    · rw [hle] at hab hbc ⊢
      intro hca
      rcases Path.before_or_eq_or_before a.place b.place with h | h | h
      · exact hbc (hca.trans h)
      · exact hbc (h ▸ hca)
      · exact hab h
    · rw [Bool.or_eq_true, hle, hle, ← not_and_or]
      exact fun h => Path.not_before_self _ (h.1.trans h.2)
  have hne : (files.mergeSort fun a b => !b.place.lex a.place).Pairwise
      fun a b => a.place ≠ b.place :=
    (List.mergeSort_perm files _).symm.pairwise h fun h => Ne.symm h
  refine (hsorted.and hne).imp fun {a b} h => ?_
  rcases Path.before_or_eq_or_before a.place b.place with hab | hab | hba
  · exact hab
  · exact absurd hab h.2
  · exact absurd hba ((hle a b).1 h.1)

/-- The files of a project stand in the order of their places, no place twice. -/
theorem sourceFiles_increasing {fs : FileSystem} (hfs : fs.Proper) :
    (sourceFiles fs s f).Pairwise fun a b => Path.Before a.place b.place := by
  unfold sourceFiles
  split
  · next t ht => exact mergeSort_increasing (walk_distinct (hfs.of_node? ht) [] s.root)
  · exact .nil

theorem mem_sourceFiles {fs : FileSystem} (hfs : fs.Proper) {x : FoundFile} :
    x ∈ sourceFiles fs s f ↔ ∃ t place bytes, fs.node? s.root = .ok t ∧ t.HasFile place bytes ∧
      Open f s.root place ∧ x ∈ visit s f place (Path.joinAll s.root place) bytes := by
  unfold sourceFiles
  split
  · next t ht =>
    rw [List.mem_mergeSort, mem_walk (hfs.of_node? ht), ht]
    simp
  · next e he =>
    rw [he]
    simp

/-- Lists of files in the order of their places are the same if their files are. -/
theorem eq_of_increasing {xs ys : List FoundFile}
    (hxs : xs.Pairwise fun a b => Path.Before a.place b.place)
    (hys : ys.Pairwise fun a b => Path.Before a.place b.place) (h : ∀ x, x ∈ xs ↔ x ∈ ys) :
    xs = ys := by
  have hnodup {zs : List FoundFile} (hzs : zs.Pairwise fun a b => Path.Before a.place b.place) :
      zs.Nodup := hzs.imp fun {a b} hlt heq => by
    rw [heq] at hlt
    exact Path.not_before_self _ hlt
  refine List.Perm.eq_of_pairwise (fun a b _ _ hab hba => ?_) hxs hys
    ((List.perm_ext_iff_of_nodup (hnodup hxs) (hnodup hys)).2 h)
  exact absurd (hab.trans hba) (Path.not_before_self _)

theorem mem_sourceFiles_of_reordered {fs fs' : FileSystem} (h : fs.Reordered fs')
    (hfs : fs.Proper) {s' : Settings} (hroot : s'.root = s.root)
    (hlanguages : s'.languages = s.languages) {x : FoundFile} (hx : x ∈ sourceFiles fs s f) :
    x ∈ sourceFiles fs' s' f := by
  obtain ⟨t, place, bytes, ht, hfile, hopen, hvisit⟩ := (mem_sourceFiles hfs).1 hx
  obtain ⟨t', ht', htrees⟩ := h.exists_node? hfs ht
  refine (mem_sourceFiles (h.proper hfs)).2 ⟨t', place, bytes, ?_, htrees.hasFile hfile, ?_, ?_⟩
  · rw [hroot, ht']
  · rwa [hroot]
  · rw [mem_visit] at hvisit ⊢
    rwa [hroot, hlanguages]

/-- The files do not depend on how directories list their entries, nor on what the settings say
beside the root and the languages. -/
theorem sourceFiles_congr {fs fs' : FileSystem} (h : fs.Reordered fs') (hfs : fs.Proper)
    {s' : Settings} (hroot : s'.root = s.root) (hlanguages : s'.languages = s.languages) :
    sourceFiles fs' s' f = sourceFiles fs s f := by
  refine eq_of_increasing (sourceFiles_increasing (h.proper hfs)) (sourceFiles_increasing hfs)
    fun x => ⟨?_, mem_sourceFiles_of_reordered h hfs hroot hlanguages⟩
  exact mem_sourceFiles_of_reordered h.symm (h.proper hfs) hroot.symm hlanguages.symm

end Scan

/-! ## Reports -/

/-- The settings leave the scan this number of workers: one if they ask for one thread, and
otherwise any, since a pool of the number asked for may be refused. -/
def Settings.AllowsWorkers (s : Settings) (workers : Nat) : Prop :=
  0 < workers ∧ (s.threads = 1 → workers = 1)

namespace Scanner

/-- The scanner with another number of threads. -/
def withThreads (sc : Scanner) (threads : Nat) : Scanner :=
  { sc with settings := { sc.settings with threads := threads } }

/-- The scan takes in a file of some language at a place below the root: the language is asked for,
and neither the file nor a directory on the way to it is left out. -/
structure TakesIn (sc : Scanner) (place : List String) (l : Language) : Prop where
  language : Language.ofPath? (Path.joinAll sc.settings.root place) = some l
  asked : ∀ languages, sc.settings.languages = some languages → l ∈ languages
  kept : sc.filter.ignores (Path.joinAll sc.settings.root place) false = false
  reached : Scan.Open sc.filter sc.settings.root place

variable {sc : Scanner} {h : Host} {fs : FileSystem}

/-- The pool that goes through the files of a project can have come to this after some steps. -/
abbrev PoolRun (sc : Scanner) (h : Host) (fs : FileSystem) (workers : Nat) :
    Nat → Pool SourceFile → Prop :=
  Pool.Run workers (sc.foundFileOn h) (Scan.sourceFiles fs sc.settings sc.filter)

abbrev PoolStopped (sc : Scanner) (h : Host) (fs : FileSystem) (workers : Nat) :
    Pool SourceFile → Prop :=
  Pool.Stopped workers (sc.foundFileOn h) (Scan.sourceFiles fs sc.settings sc.filter)

/-- The entries of a report are those of the files that the scan takes in, as they are read when
asked for by their paths, unless the host refuses them. -/
theorem mem_entriesOn (hfs : fs.Proper) (entry : SourceFile) :
    entry ∈ sc.entriesOn h fs ↔ ∃ t place bytes l,
      fs.node? sc.settings.root = .ok t ∧ t.HasFile place bytes ∧ sc.TakesIn place l ∧
        entry = sc.sourceFileOn h (Path.joinAll sc.settings.root place) l
          (h.unlessRefused place (fs.readText (Path.joinAll sc.settings.root place))) := by
  rw [entriesOn, List.mem_map]
  constructor
  · rintro ⟨x, hx, rfl⟩
    obtain ⟨t, place, bytes, ht, hfile, hopen, hvisit⟩ := (Scan.mem_sourceFiles hfs).1 hx
    obtain ⟨hkept, l, hl, hasked, rfl⟩ := Scan.mem_visit.1 hvisit
    have hnode := FileSystem.node?_joinAll ht (hfs.of_node? ht) hfile
    refine ⟨t, place, bytes, l, ht, hfile, ⟨hl, hasked, hkept, hopen⟩, ?_⟩
    rw [FileSystem.readText_of_node? hnode]
    rfl
  · rintro ⟨t, place, bytes, l, ht, hfile, htaken, rfl⟩
    have hnode := FileSystem.node?_joinAll ht (hfs.of_node? ht) hfile
    refine ⟨⟨place, Path.joinAll sc.settings.root place, l, bytes⟩, ?_, ?_⟩
    · exact (Scan.mem_sourceFiles hfs).2 ⟨t, place, bytes, ht, hfile, htaken.reached,
        Scan.mem_visit.2 ⟨htaken.kept, l, htaken.language, htaken.asked, rfl⟩⟩
    · rw [FileSystem.readText_of_node? hnode]
      rfl

theorem withResolver_eq_ok_iff {s : Settings} {r : Resolver} :
    withResolver fs s r = .ok sc ↔ ∃ f, Ignore.Filter.new fs s = .ok f ∧ sc = ⟨s, f, r⟩ := by
  unfold withResolver
  cases Ignore.Filter.new fs s with
  | error e => simp [bind, Except.bind, Except.mapError]
  | ok f => simp [bind, Except.bind, Except.mapError, pure, Except.pure, eq_comm]

theorem components_of_mem_sourceFiles (hfs : fs.Proper) {x : FoundFile}
    (hx : x ∈ Scan.sourceFiles fs sc.settings sc.filter) :
    Path.components x.path = Path.components sc.settings.root ++ x.place := by
  obtain ⟨t, place, bytes, ht, hfile, -, hvisit⟩ := (Scan.mem_sourceFiles hfs).1 hx
  obtain ⟨-, l, -, -, rfl⟩ := Scan.mem_visit.1 hvisit
  have hroot : sc.settings.root ≠ "" := by
    intro h
    rw [h] at ht
    cases ht
  exact Path.components_joinAll hroot (hfile.isName (hfs.of_node? ht))

/-- The entries stand in the order of the components of their paths, no path twice. -/
theorem entriesOn_increasing (hfs : fs.Proper) :
    ((sc.entriesOn h fs).map fun file => Path.components file.fullPath).Pairwise
      Path.Before := by
  rw [entriesOn, List.map_map, List.pairwise_map]
  refine (Scan.sourceFiles_increasing hfs).imp_of_mem fun {x y} hx hy hlt => ?_
  simp only [Function.comp, fullPath_foundFileOn]
  rw [components_of_mem_sourceFiles hfs hx, components_of_mem_sourceFiles hfs hy]
  exact hlt.append_left _

theorem sourceFiles_withThreads (hfs : fs.Proper) (threads : Nat) :
    Scan.sourceFiles fs (sc.withThreads threads).settings (sc.withThreads threads).filter =
      Scan.sourceFiles fs sc.settings sc.filter :=
  Scan.sourceFiles_congr (.refl fs) hfs rfl rfl

/-- **What a scan reports.** Whatever files the host refuses and whatever trees it gives, the scan
has an entry for each file at or below the root that it takes in and no other entry, and the paths
of the entries increase. Listing directories in another order changes neither the scanner of given
settings nor the entries. With any number of threads and of workers that it allows, sharing the
files comes to an end, and then the results are these entries. -/
theorem scan_files (sc : Scanner) (h : Host) (hfs : fs.Proper) (times : ScanTimes) :
    ∃ report, sc.scanOn h fs times = .ok report ∧
      (∀ entry, entry ∈ report.files ↔ ∃ t place bytes l,
        fs.node? sc.settings.root = .ok t ∧ t.HasFile place bytes ∧ sc.TakesIn place l ∧
          entry = sc.sourceFileOn h (Path.joinAll sc.settings.root place) l
            (h.unlessRefused place (fs.readText (Path.joinAll sc.settings.root place)))) ∧
      (report.files.map fun file => Path.components file.fullPath).Pairwise Path.Before ∧
      (∀ fs', fs.Reordered fs' → (∀ s r, withResolver fs' s r = withResolver fs s r) ∧
        ∃ report', sc.scanOn h fs' times = .ok report' ∧ report'.files = report.files) ∧
      ∀ threads workers, (sc.withThreads threads).settings.AllowsWorkers workers →
        (∃ k p, (sc.withThreads threads).PoolRun h fs workers k p ∧
          (sc.withThreads threads).PoolStopped h fs workers p) ∧
        ∀ k p, (sc.withThreads threads).PoolRun h fs workers k p →
          k ≤ 2 * report.files.length ∧
            ((sc.withThreads threads).PoolStopped h fs workers p →
              p.collected = report.files) := by
  obtain ⟨report, hreport, hfiles, -⟩ := sc.exists_scanOn h fs times
  refine ⟨report, hreport, ?_⟩
  rw [hfiles]
  refine ⟨mem_entriesOn hfs, entriesOn_increasing hfs, fun fs' hfs' => ⟨fun s r => ?_, ?_⟩,
    fun threads workers hworkers => ⟨?_, fun k p hrun => ⟨?_, fun hstopped => ?_⟩⟩⟩
  · rw [withResolver, withResolver, Ignore.Filter.new_congr hfs' hfs]
  · obtain ⟨report', hreport', hfiles', -⟩ := sc.exists_scanOn h fs' times
    exact ⟨report', hreport', by
      rw [hfiles', entriesOn, entriesOn, Scan.sourceFiles_congr hfs' hfs rfl rfl]⟩
  · exact Pool.Run.start.exists_stopped
  · have hsteps := hrun.steps_add
    rw [sourceFiles_withThreads hfs] at hsteps
    rw [entriesOn, List.length_map]
    omega
  · have hcollected := hrun.collected_eq hworkers.1 hstopped
    rw [sourceFiles_withThreads hfs] at hcollected
    exact hcollected

/-- A project with a script and a built one. -/
def builtFiles : FileSystem where
  working := .directory
    [("build", .directory [("b.py", .file "b".toUTF8)]),
     ("lib", .directory [("a.py", .file "a >= b".toUTF8)])]

theorem proper_builtFiles : builtFiles.Proper := by
  refine ⟨.directory (by decide) (by decide) (List.forall_mem_cons.2 ⟨?_, List.forall_mem_cons.2
    ⟨?_, fun e he => absurd he List.not_mem_nil⟩⟩),
    .directory (by decide) (by decide) fun e he => absurd he List.not_mem_nil⟩
  · exact .directory (by decide) (by decide) (List.forall_mem_singleton.2 (.file _))
  · exact .directory (by decide) (by decide) (List.forall_mem_singleton.2 (.file _))

theorem node?_builtFiles : builtFiles.node? "." = .ok builtFiles.working := by
  rw [FileSystem.node?, if_neg (by decide)]
  rfl

/-- What the filter of the default settings says of the paths in the project. -/
theorem ignores_builtFiles {f : Ignore.Filter} (hf : Ignore.Filter.new builtFiles {} = .ok f) :
    f.ignores "./build/b.py" false = true ∧ f.ignores "./lib/a.py" false = false ∧
      f.ignores "./lib" true = false := by
  have hignores : (Ignore.Filter.new builtFiles {}).toOption.map (fun f =>
      (f.ignores "./build/b.py" false, f.ignores "./lib/a.py" false, f.ignores "./lib" true)) =
    some (true, false, false) := by decide +kernel
  rw [hf] at hignores
  simpa only [Except.toOption, Option.map_some, Option.some.injEq, Prod.mk.injEq] using hignores

theorem takesIn_builtFiles {r : Resolver} (h : withResolver builtFiles {} r = .ok sc) :
    sc.TakesIn ["lib", "a.py"] .python := by
  obtain ⟨f, hf, rfl⟩ := withResolver_eq_ok_iff.1 h
  obtain ⟨-, hscript, hlib⟩ := ignores_builtFiles hf
  have hplace : Path.joinAll "." ["lib", "a.py"] = "./lib/a.py" := by decide +kernel
  have hplaceLib : Path.join "." "lib" = "./lib" := by decide +kernel
  have hlanguage : Language.ofPath? (Path.joinAll "." ["lib", "a.py"]) = some .python := by
    decide +kernel
  refine ⟨hlanguage, fun languages hasked => absurd hasked (by simp), ?_, ?_⟩
  · show f.ignores (Path.joinAll "." ["lib", "a.py"]) false = false
    rw [hplace, hscript]
  · refine Scan.open_cons.2 ⟨fun _ => ?_, Scan.open_cons.2 ⟨fun hnil => absurd rfl hnil,
      Scan.open_nil _ _⟩⟩
    show f.ignores (Path.join "." "lib") true = false
    rw [hplaceLib, hlib]

/-- The script is reported, and the built one is not. -/
theorem scan_builtFiles :
    ∃ sc, withResolver builtFiles {} ⟨.builtin, .builtin, .ofTable .builtin⟩ = .ok sc ∧
      ∀ times, sc.sourceFile "./lib/a.py" .python (.ok "a >= b") ∈
          (sc.scan builtFiles times).files ∧
        ∀ entry ∈ (sc.scan builtFiles times).files, entry.fullPath ≠ "./build/b.py" := by
  obtain ⟨sc, hsc⟩ : ∃ sc, withResolver builtFiles {} ⟨.builtin, .builtin, .ofTable .builtin⟩ =
    .ok sc := ⟨_, rfl⟩
  refine ⟨sc, hsc, fun times => ?_⟩
  obtain ⟨report, hreport, hfiles, -⟩ := sc.scan_files .willing proper_builtFiles times
  rw [scanOn_willing] at hreport
  obtain rfl : sc.scan builtFiles times = report := Except.ok.inj hreport
  have htaken := takesIn_builtFiles hsc
  obtain ⟨f, hf, rfl⟩ := withResolver_eq_ok_iff.1 hsc
  constructor
  · have hplace : Path.joinAll "." ["lib", "a.py"] = "./lib/a.py" := by decide +kernel
    refine (hfiles _).2 ⟨builtFiles.working, ["lib", "a.py"], _, .python, node?_builtFiles,
      .inside (.tail _ (.head _)) (.inside (.head _) (.here _)), htaken, ?_⟩
    show _ = sourceFileOn _ .willing (Path.joinAll "." ["lib", "a.py"]) _
      (builtFiles.readText (Path.joinAll "." ["lib", "a.py"]))
    rw [hplace, sourceFileOn_willing]
    rfl
  · intro entry hentry hpath
    obtain ⟨t, place, bytes, l, -, -, htaken, rfl⟩ := (hfiles entry).1 hentry
    have hkept := htaken.kept
    rw [(paths_sourceFileOn ..).2] at hpath
    rw [hpath, (ignores_builtFiles hf).1] at hkept
    cases hkept

end Scanner

end GlyphFold
