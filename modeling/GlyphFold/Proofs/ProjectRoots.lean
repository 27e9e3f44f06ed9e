import GlyphFold.Proofs.BuiltinGlobs
import GlyphFold.Proofs.ScannedFiles

/-!
# Where a project lies

The built-in globs are matched against whole paths, with the root in front. So a root on whose way a
directory has one of their names leaves nothing to report, and the root is asked about with every
file although the walk does not ask about the root itself. For all other roots a tree gives the same
report of places.

1. `Ignore.Inside`, `Scanner.Offered`: what the root has to do with it, and what the place has
2. `Scanner.BuiltinFilter.kept_joinAll_iff`: what the built-in globs alone keep of a tree
3. `Scanner.exists_takesIn_iff`: a scan with them takes in the places offered
4. `Scanner.mem_paths_iff`: the paths that it shows
5. `Scanner.paths_eq_iff`: when two roots give the same report of a tree
-/

namespace GlyphFold

/-! ## Paths below a root -/

namespace Path

theorem isSuffix_append_slash_iff {w a b : List Char} (hw : '/' ∉ w) :
    w <:+ a ++ '/' :: b ↔ w <:+ b := by
  constructor
  · intro h
    rcases List.suffix_or_suffix_of_suffix h (List.suffix_append a ('/' :: b)) with h | h
    · rcases List.suffix_cons_iff.1 h with rfl | h
      · exact absurd List.mem_cons_self hw
      · exact h
    · exact absurd (h.subset List.mem_cons_self) hw
  · intro h
    exact (h.trans (List.suffix_cons '/' b)).trans (List.suffix_append a _)

theorem isSuffix_join_iff {w : List Char} {base name : String} (hw : '/' ∉ w) (hbase : base ≠ "")
    (hname : IsName name) : w <:+ (join base name).toList ↔ w <:+ name.toList := by
  rcases toList_join hbase hname with h | ⟨front, -, h⟩
  · rw [h, isSuffix_append_slash_iff hw]
  · rw [h, isSuffix_append_slash_iff hw]

end Path

theorem Language.ofPath?_join {base name : String} (hbase : base ≠ "") (hname : Path.IsName name) :
    ofPath? (Path.join base name) = ofPath? name := by
  unfold ofPath? Path.extension?
  rw [Path.fileName?_join hbase hname]

/-- The language of a file does not depend on where it lies. -/
theorem Language.ofPath?_joinAll {base name : String} {above : List String} (hbase : base ≠ "")
    (hplace : ∀ n ∈ above ++ [name], Path.IsName n) :
    ofPath? (Path.joinAll base (above ++ [name])) = ofPath? name := by
  obtain ⟨habove, hname⟩ := List.forall_mem_append.1 hplace
  rw [Path.joinAll_concat]
  exact ofPath?_join (Path.joinAll_ne_empty hbase habove) (List.forall_mem_singleton.1 hname)

namespace Ignore

/-- A directory on the way to the root, or the root itself, has a name that the built-in globs
know. -/
def Inside (root : String) : Prop :=
  ∃ name ∈ builtinDirectories, name.toList ∈ Path.pieces root.toList

instance (root : String) : Decidable (Inside root) :=
  inferInstanceAs (Decidable (∃ name ∈ builtinDirectories, name.toList ∈ Path.pieces root.toList))

theorem buried_joinAll_iff {root : String} {place : List String} (hroot : root ≠ "")
    (hne : place ≠ []) (hplace : ∀ name ∈ place, Path.IsName name) :
    Buried (Path.joinAll root place) ↔
      Inside root ∨ ∃ name ∈ place.dropLast, name ∈ builtinDirectories := by
  obtain ⟨front, idle, hpieces, hidle, hjoined⟩ := Path.exists_pieces_joinAll hroot hne hplace
  have hnotEmpty : ∀ name ∈ builtinDirectories, name.toList ≠ [] := by decide +kernel
  have hmem (name : String) (hname : name ∈ builtinDirectories) :
      name.toList ∈ (Path.pieces (Path.joinAll root place).toList).dropLast ↔
        name.toList ∈ Path.pieces root.toList ∨ name ∈ place.dropLast := by
    have hidleNot : name.toList ∉ idle := by
      rcases hidle with rfl | rfl
      · exact List.not_mem_nil
      · exact fun h => hnotEmpty name hname (List.mem_singleton.1 h)
    have hdropped : name.toList ∈ (place.map String.toList).dropLast ↔ name ∈ place.dropLast := by
      rw [← List.map_dropLast, List.mem_map]
      constructor
      · rintro ⟨n, hn, h⟩
        rwa [← String.toList_inj.1 h]
      · exact fun h => ⟨name, h, rfl⟩
    rw [hjoined, hpieces, List.dropLast_append_of_ne_nil (by simpa using hne), List.mem_append,
      List.mem_append, hdropped, or_iff_left hidleNot]
  constructor
  · rintro ⟨name, hname, h⟩
    rcases (hmem name hname).1 h with h | h
    · exact .inl ⟨name, hname, h⟩
    · exact .inr ⟨name, h, hname⟩
  · rintro (⟨name, hname, h⟩ | ⟨name, h, hname⟩)
    · exact ⟨name, hname, (hmem name hname).2 (.inl h)⟩
    · exact ⟨name, hname, (hmem name hname).2 (.inr h)⟩

theorem minified_join_iff {base name : String} (hbase : base ≠ "") (hname : Path.IsName name) :
    Minified (Path.join base name) ↔ Minified name :=
  Path.isSuffix_join_iff (by decide) hbase hname

end Ignore

/-- The paths that a report shows. -/
def Report.paths (r : Report) : List String := r.files.map (·.path)

/-! ## Places -/

namespace Scanner

/-- A scan with the built-in globs alone takes in a file at the place, if the root lets it: the file
has a language that is asked for, no directory on the way has a name that the globs know, and no name
has the ending of minified scripts. -/
structure Offered (languages : Option (List Language)) (place : List String) : Prop where
  asked : ∃ name l, place.getLast? = some name ∧ Language.ofPath? name = some l ∧
    ∀ ls, languages = some ls → l ∈ ls
  outside : ∀ name ∈ place.dropLast, name ∉ Ignore.builtinDirectories
  plain : ∀ name ∈ place, ¬ Ignore.Minified name

/-- The filter has the built-in globs and no rules of an ignore file. -/
structure BuiltinFilter (sc : Scanner) : Prop where
  globs : sc.filter.globs = Ignore.builtinPatterns
  rules : sc.filter.rules.rules = []

variable {sc : Scanner}

theorem offered_concat_iff {languages : Option (List Language)} {above : List String}
    {name : String} :
    Offered languages (above ++ [name]) ↔
      (∃ l, Language.ofPath? name = some l ∧ ∀ ls, languages = some ls → l ∈ ls) ∧
        (∀ n ∈ above, n ∉ Ignore.builtinDirectories) ∧
        (∀ n ∈ above, ¬ Ignore.Minified n) ∧ ¬ Ignore.Minified name := by
  constructor
  · rintro ⟨⟨last, l, hlast, hl, hasked⟩, houtside, hplain⟩
    rw [List.getLast?_concat, Option.some.injEq] at hlast
    rw [List.dropLast_concat] at houtside
    subst hlast
    exact ⟨⟨l, hl, hasked⟩, houtside, fun n hn => hplain n (List.mem_append_left _ hn),
      hplain name (by simp)⟩
  · rintro ⟨⟨l, hl, hasked⟩, houtside, habove, hname⟩
    refine ⟨⟨name, l, List.getLast?_concat, hl, hasked⟩, ?_, ?_⟩
    · rwa [List.dropLast_concat]
    · exact List.forall_mem_append.2 ⟨habove, List.forall_mem_singleton.2 hname⟩

/-- The filter keeps a path below the root if neither the root nor a directory on the way buries it,
and its own name is plain. -/
theorem BuiltinFilter.kept_joinAll_iff (h : sc.BuiltinFilter) {root : String}
    {above : List String} {name : String} (hroot : root ≠ "")
    (hplace : ∀ n ∈ above ++ [name], Path.IsName n) (isDirectory : Bool) :
    sc.filter.ignores (Path.joinAll root (above ++ [name])) isDirectory = false ↔
      ¬ Ignore.Inside root ∧ (∀ n ∈ above, n ∉ Ignore.builtinDirectories) ∧
        ¬ Ignore.Minified name := by
  obtain ⟨habove, hname⟩ := List.forall_mem_append.1 hplace
  have hminified : Ignore.Minified (Path.joinAll root (above ++ [name])) ↔ Ignore.Minified name := by
    rw [Path.joinAll_concat]
    exact Ignore.minified_join_iff (Path.joinAll_ne_empty hroot habove)
      (List.forall_mem_singleton.1 hname)
  rw [← Bool.not_eq_true, Ignore.Filter.ignores_iff h.globs h.rules,
    Ignore.buried_joinAll_iff hroot (by simp) hplace, List.dropLast_concat, hminified, not_or,
    not_or, and_assoc]
  simp only [not_exists, not_and]

/-- The walk enters all directories above a place that the filter keeps if none of them has the
ending of minified scripts: what else could stop it would also bury the place. -/
theorem BuiltinFilter.open_concat_iff (h : sc.BuiltinFilter) {root : String} {above : List String}
    (name : String) (hroot : root ≠ "") (habove : ∀ n ∈ above, Path.IsName n)
    (hinside : ¬ Ignore.Inside root) (houtside : ∀ n ∈ above, n ∉ Ignore.builtinDirectories) :
    Scan.Open sc.filter root (above ++ [name]) ↔ ∀ n ∈ above, ¬ Ignore.Minified n := by
  constructor
  · intro hreached n hn
    obtain ⟨a, b, rfl⟩ := List.append_of_mem hn
    have hnames : ∀ m ∈ a ++ [n], Path.IsName m := fun m hm => habove m (by
      rw [List.append_cons]
      exact List.mem_append_left b hm)
    have hkept := hreached (a ++ [n]) (b ++ [name]) (by simp) (by simp) (by simp)
    exact ((h.kept_joinAll_iff hroot hnames true).1 hkept).2.2
  · intro hplain way below hsplit hway hbelow
    obtain ⟨a, n, rfl⟩ := (List.eq_nil_or_concat' way).resolve_left hway
    have hmem : ∀ m ∈ a ++ [n], m ∈ above := by
      have hdropped := congrArg List.dropLast hsplit
      rw [List.dropLast_concat, List.dropLast_append_of_ne_nil hbelow] at hdropped
      exact fun m hm => hdropped ▸ List.mem_append_left _ hm
    refine (h.kept_joinAll_iff hroot (fun m hm => habove m (hmem m hm)) true).2
      ⟨hinside, fun m hm => houtside m (hmem m (List.mem_append_left _ hm)), ?_⟩
    exact hplain n (hmem n (by simp))

/-- The places that a scan with the built-in globs alone takes in: none inside a directory that they
know, and otherwise those offered. -/
theorem exists_takesIn_iff (h : sc.BuiltinFilter) {place : List String}
    (hroot : sc.settings.root ≠ "") (hne : place ≠ []) (hplace : ∀ n ∈ place, Path.IsName n) :
    (∃ l, sc.TakesIn place l) ↔
      ¬ Ignore.Inside sc.settings.root ∧ Offered sc.settings.languages place := by
  obtain ⟨above, name, rfl⟩ := (List.eq_nil_or_concat' place).resolve_left hne
  have habove := (List.forall_mem_append.1 hplace).1
  have hlanguage := Language.ofPath?_joinAll hroot hplace
  rw [offered_concat_iff]
  constructor
  · rintro ⟨l, hl, hasked, hkept, hreached⟩
    obtain ⟨hinside, houtside, hplain⟩ := (h.kept_joinAll_iff hroot hplace false).1 hkept
    have hway := (h.open_concat_iff name hroot habove hinside houtside).1 hreached
    exact ⟨hinside, ⟨l, hlanguage ▸ hl, hasked⟩, houtside, hway, hplain⟩
  · rintro ⟨hinside, ⟨l, hl, hasked⟩, houtside, hway, hplain⟩
    have hkept := (h.kept_joinAll_iff hroot hplace false).2 ⟨hinside, houtside, hplain⟩
    have hreached := (h.open_concat_iff name hroot habove hinside houtside).2 hway
    exact ⟨l, hlanguage.trans hl, hasked, hkept, hreached⟩

/-! ## Reports -/

variable {fs : FileSystem} {t : FileTree}

theorem ne_empty_of_node? {path : String} (ht : fs.node? path = .ok t) : path ≠ "" := by
  rintro rfl
  cases ht

/-- What a scan with the built-in globs alone shows of a directory: inside a directory that they
know nothing, and otherwise the places offered. Files that the host refuses are shown too. -/
theorem mem_paths_iff (hfs : fs.Proper) (ht : fs.node? sc.settings.root = .ok t)
    (hdir : t.isDirectory = true) (hbuiltin : sc.BuiltinFilter) {h : Host} {times : ScanTimes}
    {report : Report} (hscan : sc.scanOn h fs times = .ok report) (shown : String) :
    shown ∈ report.paths ↔ ¬ Ignore.Inside sc.settings.root ∧
      ∃ place bytes, t.HasFile place bytes ∧ Offered sc.settings.languages place ∧
        shown = Path.ofNames place := by
  obtain ⟨_, hentries, hfiles, -⟩ := sc.exists_scanOn h fs times
  obtain rfl := Except.ok.inj (hscan.symm.trans hentries)
  have hroot := ne_empty_of_node? ht
  have htree := hfs.of_node? ht
  have hshown {place : List String} {bytes : ByteArray} (hfile : t.HasFile place bytes) :
      (Path.stripRoot? sc.settings.root (Path.joinAll sc.settings.root place)).getD
        (Path.joinAll sc.settings.root place) = Path.ofNames place := by
    rw [Path.stripRoot?_joinAll hroot (hfile.isDirectory_iff.1 hdir) (hfile.isName htree)]
    rfl
  have htaken {place : List String} {bytes : ByteArray} (hfile : t.HasFile place bytes) :=
    exists_takesIn_iff hbuiltin hroot (hfile.isDirectory_iff.1 hdir) (hfile.isName htree)
  rw [Report.paths, List.mem_map, hfiles]
  constructor
  · rintro ⟨entry, hentry, rfl⟩
    obtain ⟨t', place, bytes, l, ht', hfile, htakes, rfl⟩ := (mem_entriesOn hfs entry).1 hentry
    obtain rfl : t = t' := Except.ok.inj (ht.symm.trans ht')
    obtain ⟨hinside, hoffered⟩ := (htaken hfile).1 ⟨l, htakes⟩
    refine ⟨hinside, place, bytes, hfile, hoffered, ?_⟩
    rw [(paths_sourceFileOn ..).1, hshown hfile]
  · rintro ⟨hinside, place, bytes, hfile, hoffered, rfl⟩
    obtain ⟨l, htakes⟩ := (htaken hfile).2 ⟨hinside, hoffered⟩
    refine ⟨_, (mem_entriesOn hfs _).2 ⟨t, place, bytes, l, ht, hfile, htakes, rfl⟩, ?_⟩
    rw [(paths_sourceFileOn ..).1, hshown hfile]

theorem rules_rulesOf {s : Settings} (hfs : fs.Proper) (ht : fs.node? s.root = .ok t)
    (hrules : ∀ bytes, ¬ t.HasFile [".gitignore"] bytes) (hfile : s.ignoreFile = none) :
    (Ignore.rulesOf fs s).rules = [] := by
  have hread : ∃ e, fs.read (Path.join s.root ".gitignore") = .error e := by
    rw [FileSystem.read, FileSystem.node?_join ht (by decide)]
    cases hentry : t.entry? ".gitignore" with
    | error e => exact ⟨e, rfl⟩
    | ok u =>
      cases u with
      | directory entries => exact ⟨.isDirectory, rfl⟩
      | file bytes =>
        obtain ⟨entries, rfl, hmem⟩ := (hfs.of_node? ht).mem_of_found hentry
        exact absurd (.inside hmem (.here bytes)) (hrules bytes)
  obtain ⟨e, he⟩ := hread
  rw [Ignore.rulesOf, hfile, Option.getD_none, he]

/-- Without patterns of the user and an ignore file, there is a scanner, and it has the built-in
globs alone. -/
theorem exists_mem_paths_iff (hfs : fs.Proper) {root : String} (ht : fs.node? root = .ok t)
    (hdir : t.isDirectory = true) (hrules : ∀ bytes, ¬ t.HasFile [".gitignore"] bytes)
    {s : Settings} (hfile : s.ignoreFile = none) (hpatterns : s.ignorePatterns = [])
    (hdeps : s.includeDeps = false) (r : Resolver) :
    ∃ sc, withResolver fs { s with root := root } r = .ok sc ∧
      ∀ h times report, sc.scanOn h fs times = .ok report → ∀ shown,
        shown ∈ report.paths ↔ ¬ Ignore.Inside root ∧
          ∃ place bytes, t.HasFile place bytes ∧ Offered s.languages place ∧
            shown = Path.ofNames place := by
  have hnew : Ignore.Filter.new fs { s with root := root } = .ok
      ⟨Ignore.builtinPatterns, Ignore.rulesOf fs { s with root := root }⟩ :=
    Ignore.Filter.new_of_builtin hpatterns hdeps
  have hnone := rules_rulesOf (s := { s with root := root }) hfs ht hrules hfile
  exact ⟨_, withResolver_eq_ok_iff.2 ⟨_, hnew, rfl⟩, fun h times report hscan =>
    mem_paths_iff hfs ht hdir ⟨rfl, hnone⟩ hscan⟩

/-- **Where a project lies.** For a directory without an ignore file and settings without patterns,
the scan of the directory under a root shows the places offered, unless the root lies in or is a
directory with a name that the built-in globs know: then it shows nothing. So the scans of the same
directory under two roots show the same if both roots lie so or neither does, and if there is nothing
to show. What the hosts refuse, and the trees that they give, make no difference. -/
theorem paths_eq_iff {fs' : FileSystem} (hfs : fs.Proper) (hfs' : fs'.Proper) {root root' : String}
    (ht : fs.node? root = .ok t) (ht' : fs'.node? root' = .ok t) (hdir : t.isDirectory = true)
    (hrules : ∀ bytes, ¬ t.HasFile [".gitignore"] bytes) {s : Settings}
    (hfile : s.ignoreFile = none) (hpatterns : s.ignorePatterns = [])
    (hdeps : s.includeDeps = false) (r r' : Resolver) :
    ∃ sc sc', withResolver fs { s with root := root } r = .ok sc ∧
      withResolver fs' { s with root := root' } r' = .ok sc' ∧
      ∀ h h' times times', ∃ report report',
        sc.scanOn h fs times = .ok report ∧ sc'.scanOn h' fs' times' = .ok report' ∧
        (∀ shown, shown ∈ report.paths ↔ ¬ Ignore.Inside root ∧
          ∃ place bytes, t.HasFile place bytes ∧ Offered s.languages place ∧
            shown = Path.ofNames place) ∧
        ((∀ shown, shown ∈ report.paths ↔ shown ∈ report'.paths) ↔
          (Ignore.Inside root ↔ Ignore.Inside root') ∨
            ∀ place bytes, t.HasFile place bytes → ¬ Offered s.languages place) := by
  obtain ⟨sc, hsc, hall⟩ := exists_mem_paths_iff hfs ht hdir hrules hfile hpatterns hdeps r
  obtain ⟨sc', hsc', hall'⟩ := exists_mem_paths_iff hfs' ht' hdir hrules hfile hpatterns hdeps r'
  refine ⟨sc, sc', hsc, hsc', fun h h' times times' => ?_⟩
  obtain ⟨report, hscan, -⟩ := sc.exists_scanOn h fs times
  obtain ⟨report', hscan', -⟩ := sc'.exists_scanOn h' fs' times'
  have hpaths := hall h times report hscan
  have hpaths' := hall' h' times' report' hscan'
  refine ⟨report, report', hscan, hscan', hpaths, fun hsame => ?_, ?_⟩
  · by_cases hnone : ∀ place bytes, t.HasFile place bytes → ¬ Offered s.languages place
    · exact .inr hnone
    · simp only [not_forall, Classical.not_not] at hnone
      obtain ⟨place, bytes, hfile, hoffered⟩ := hnone
      have hboth := hsame (Path.ofNames place)
      have hshown : ∃ place' bytes, t.HasFile place' bytes ∧ Offered s.languages place' ∧
        Path.ofNames place = Path.ofNames place' := ⟨place, bytes, hfile, hoffered, rfl⟩
      rw [hpaths, hpaths', and_iff_left hshown, and_iff_left hshown] at hboth
      exact .inl (not_iff_not.1 hboth)
  · rintro (hinside | hnone) shown
    · rw [hpaths, hpaths', hinside]
    · have hno : ¬ ∃ place bytes, t.HasFile place bytes ∧ Offered s.languages place ∧
          shown = Path.ofNames place :=
        fun ⟨place, bytes, hfile, hoffered, _⟩ => hnone place bytes hfile hoffered
      rw [hpaths, hpaths', iff_false_intro hno, and_false, and_false]

/-- A directory with a script. -/
def scriptTree : FileTree := .directory [("a.py", .file "a >= b".toUTF8)]

/-- The same directory under two roots. -/
def twiceFiles : FileSystem where
  working := .directory [("build", scriptTree), ("proj", scriptTree)]

theorem proper_twiceFiles : twiceFiles.Proper := by
  have hscript : scriptTree.Proper :=
    .directory (by decide) (by decide) (List.forall_mem_singleton.2 (.file _))
  refine ⟨.directory (by decide) (by decide) ?_, .directory (by decide) (by decide) nofun⟩
  exact List.forall_mem_cons.2 ⟨hscript, List.forall_mem_singleton.2 hscript⟩

theorem node?_twiceFiles :
    twiceFiles.node? "build" = .ok scriptTree ∧ twiceFiles.node? "proj" = .ok scriptTree := by
  rw [FileSystem.node?, if_neg (by decide), FileSystem.node?, if_neg (by decide)]
  exact ⟨rfl, rfl⟩

theorem not_hasFile_scriptTree : ∀ bytes, ¬ scriptTree.HasFile [".gitignore"] bytes := by
  intro bytes h
  obtain ⟨name, t, rest, hentry, -, heq⟩ := FileTree.hasFile_directory_iff.1 h
  obtain ⟨rfl, rfl⟩ := List.cons.inj heq
  have hname : ".gitignore" = "a.py" := congrArg Prod.fst (List.mem_singleton.1 hentry)
  exact absurd hname (by decide)

theorem offered_script : Offered none ["a.py"] where
  asked := ⟨"a.py", .python, rfl, by decide +kernel, nofun⟩
  outside := nofun
  plain := List.forall_mem_singleton.2 (by unfold Ignore.Minified; decide +kernel)

theorem hasFile_scriptTree : scriptTree.HasFile ["a.py"] "a >= b".toUTF8 :=
  .inside List.mem_cons_self (.here _)

/-- Under the name of a directory for build results, the directory shows nothing of what it shows
under another. -/
theorem paths_twiceFiles :
    ∃ sc sc', withResolver twiceFiles { root := "build" } ⟨.builtin, .builtin, .ofTable .builtin⟩ =
        .ok sc ∧
      withResolver twiceFiles { root := "proj" } ⟨.builtin, .builtin, .ofTable .builtin⟩ =
        .ok sc' ∧
      ∀ times times', (∀ shown, shown ∉ (sc.scan twiceFiles times).paths) ∧
        ¬ ∀ shown, shown ∈ (sc.scan twiceFiles times).paths ↔
          shown ∈ (sc'.scan twiceFiles times').paths := by
  obtain ⟨sc, sc', hsc, hsc', hall⟩ := paths_eq_iff (s := {}) proper_twiceFiles proper_twiceFiles
    node?_twiceFiles.1 node?_twiceFiles.2 rfl not_hasFile_scriptTree rfl rfl rfl
    ⟨.builtin, .builtin, .ofTable .builtin⟩ ⟨.builtin, .builtin, .ofTable .builtin⟩
  refine ⟨sc, sc', hsc, hsc', fun times times' => ?_⟩
  obtain ⟨report, report', hscan, hscan', hpaths, hsame⟩ := hall .willing .willing times times'
  rw [scanOn_willing] at hscan hscan'
  obtain rfl := Except.ok.inj hscan
  obtain rfl := Except.ok.inj hscan'
  have hinside : Ignore.Inside "build" := by decide
  refine ⟨fun shown hshown => ((hpaths shown).1 hshown).1 hinside, fun hequal => ?_⟩
  rcases hsame.1 hequal with hiff | hnone
  · exact absurd (hiff.1 hinside) (by decide)
  · exact hnone _ _ hasFile_scriptTree offered_script

/-- It does matter under which root a directory lies. -/
theorem not_forall_paths_eq :
    ¬ ∀ (fs fs' : FileSystem) (root root' : String) (t : FileTree) (s : Settings) (r : Resolver),
      fs.Proper → fs'.Proper → fs.node? root = .ok t → fs'.node? root' = .ok t →
      t.isDirectory = true → (∀ bytes, ¬ t.HasFile [".gitignore"] bytes) →
      s.ignoreFile = none → s.ignorePatterns = [] → s.includeDeps = false →
      ∀ sc sc', withResolver fs { s with root := root } r = .ok sc →
        withResolver fs' { s with root := root' } r = .ok sc' →
        ∀ times shown, shown ∈ (sc.scan fs times).paths ↔ shown ∈ (sc'.scan fs' times).paths := by
  intro h
  obtain ⟨hbuild, hproj⟩ := node?_twiceFiles
  obtain ⟨sc, hsc, hall⟩ := exists_mem_paths_iff (s := {}) proper_twiceFiles hbuild rfl
    not_hasFile_scriptTree rfl rfl rfl ⟨.builtin, .builtin, .ofTable .builtin⟩
  obtain ⟨sc', hsc', hall'⟩ := exists_mem_paths_iff (s := {}) proper_twiceFiles hproj rfl
    not_hasFile_scriptTree rfl rfl rfl ⟨.builtin, .builtin, .ofTable .builtin⟩
  have hsame := h twiceFiles twiceFiles "build" "proj" scriptTree {} _ proper_twiceFiles
    proper_twiceFiles hbuild hproj rfl not_hasFile_scriptTree rfl rfl rfl sc sc' hsc hsc'
    { timestamp := "" } "a.py"
  rw [hall .willing _ _ (sc.scanOn_willing _ _), hall' .willing _ _ (sc'.scanOn_willing _ _)]
    at hsame
  have hshown : "a.py" = Path.ofNames ["a.py"] := by decide +kernel
  exact (hsame.2 ⟨by decide, ["a.py"], _, hasFile_scriptTree, offered_script, hshown⟩).1 (by decide)

end Scanner

end GlyphFold
