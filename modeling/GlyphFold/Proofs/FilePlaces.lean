import GlyphFold.Ignore.Filter
import GlyphFold.Proofs.PathNames
import Mathlib.Data.List.Forall2

/-!
# Places of files

A file lies at a place below a directory: the names of the entries that lead to it. In a tree as a
directory can hold it, the path made of these names leads there, and in which order the entries of a
directory are listed does not matter to anyone who follows a path.

1. `FileTree.HasFile`, `FileTree.Proper`: what lies where, and which trees a directory can hold
2. `FileSystem.node?_joinAll`: the path to a place leads to what lies there
3. `FileTree.Reordered`: the same tree with its entries listed otherwise
4. `Reordered.node?`, `Ignore.Filter.new_congr`: what does not depend on the listing
-/

namespace GlyphFold

namespace FileTree

/-- A file with the given bytes lies at a place of the tree. -/
inductive HasFile : FileTree → List String → ByteArray → Prop where
  | here (bytes : ByteArray) : HasFile (.file bytes) [] bytes
  | inside {entries : List (String × FileTree)} {name : String} {t : FileTree}
      {place : List String} {bytes : ByteArray} (hentry : (name, t) ∈ entries)
      (hfile : HasFile t place bytes) : HasFile (.directory entries) (name :: place) bytes

/-- Every entry has a name that leads to it, and no other entry of its directory has it too. -/
inductive Proper : FileTree → Prop where
  | file (bytes : ByteArray) : Proper (.file bytes)
  | directory {entries : List (String × FileTree)} (hnames : ∀ e ∈ entries, Path.IsName e.1)
      (hdistinct : (entries.map Prod.fst).Nodup) (hentries : ∀ e ∈ entries, Proper e.2) :
      Proper (.directory entries)

theorem HasFile.isName {t : FileTree} {place : List String} {bytes : ByteArray}
    (h : t.HasFile place bytes) (ht : t.Proper) : ∀ name ∈ place, Path.IsName name := by
  induction h with
  | here bytes => exact fun name hname => absurd hname List.not_mem_nil
  | inside hentry _ ih =>
    cases ht with
    | directory hnames _ hentries =>
      exact List.forall_mem_cons.2 ⟨hnames _ hentry, ih (hentries _ hentry)⟩

theorem lookup_eq_some_iff {entries : List (String × FileTree)}
    (hdistinct : (entries.map Prod.fst).Nodup) {name : String} {t : FileTree} :
    entries.lookup name = some t ↔ (name, t) ∈ entries := by
  induction entries with
  | nil => simp
  | cons e entries ih =>
    obtain ⟨n, u⟩ := e
    obtain ⟨hn, hrest⟩ := List.nodup_cons.1 hdistinct
    rw [List.lookup_cons]
    by_cases h : name = n
    · subst h
      have hout : (name, t) ∉ entries := fun hmem => hn (List.mem_map.2 ⟨_, hmem, rfl⟩)
      simp [hout, eq_comm]
    · rw [beq_false_of_ne h]
      simp [h, ih hrest]

theorem Proper.entry_eq {entries : List (String × FileTree)} (h : Proper (.directory entries))
    {name : String} {t : FileTree} (hentry : (name, t) ∈ entries) :
    FileTree.entry? (.directory entries) name = .ok t := by
  cases h with
  | directory _ hdistinct _ =>
    rw [FileTree.entry?, (lookup_eq_some_iff hdistinct).2 hentry]

theorem Proper.mem_of_found {t u : FileTree} {name : String} (ht : t.Proper)
    (h : t.entry? name = .ok u) : ∃ entries, t = .directory entries ∧ (name, u) ∈ entries := by
  cases ht with
  | file bytes => cases h
  | directory _ hdistinct _ =>
    rw [FileTree.entry?] at h
    split at h
    · next hlookup =>
      cases h
      exact ⟨_, rfl, (lookup_eq_some_iff hdistinct).1 hlookup⟩
    · cases h

theorem Proper.of_found {t u : FileTree} {name : String} (ht : t.Proper)
    (h : t.entry? name = .ok u) : u.Proper := by
  obtain ⟨entries, rfl, hentry⟩ := ht.mem_of_found h
  cases ht with
  | directory _ _ hentries => exact hentries _ hentry

/-! ## Following paths -/

/-- Following pieces fails, or it leads to one tree from which all further pieces are followed. -/
theorem follow_append (above : List FileTree) (t : FileTree) (ps : List (List Char)) :
    (∃ e, ∀ rest, follow above t (ps ++ rest) = .error e) ∨
      ∃ above' u, ∀ rest, follow above t (ps ++ rest) = follow above' u rest := by
  induction ps generalizing above t with
  | nil => exact .inr ⟨above, t, fun rest => rfl⟩
  | cons p ps ih =>
    simp only [List.cons_append, follow]
    by_cases hidle : Path.isIdle p
    · simp only [if_pos hidle]
      by_cases hdir : t.isDirectory
      · simpa only [if_pos hdir] using ih above t
      · simp only [if_neg hdir]
        exact .inl ⟨_, fun rest => rfl⟩
    · simp only [if_neg hidle]
      by_cases hup : p = ['.', '.']
      · simp only [if_pos hup]
        by_cases hdir : t.isDirectory
        · simp only [if_pos hdir]
          cases above with
          | nil => exact .inl ⟨_, fun rest => rfl⟩
          | cons parent higher => exact ih higher parent
        · simp only [if_neg hdir]
          exact .inl ⟨_, fun rest => rfl⟩
      · simp only [if_neg hup]
        cases t.entry? (String.ofList p) with
        | error e => exact .inl ⟨e, fun rest => rfl⟩
        | ok u => exact ih (t :: above) u

theorem Proper.of_follow {above : List FileTree} {t u : FileTree} {ps : List (List Char)}
    (habove : ∀ v ∈ above, v.Proper) (ht : t.Proper) (h : follow above t ps = .ok u) :
    u.Proper := by
  induction ps generalizing above t with
  | nil =>
    cases h
    exact ht
  | cons p ps ih =>
    simp only [follow] at h
    split at h
    · split at h
      · exact ih habove ht h
      · cases h
    · split at h
      · split at h
        · cases above with
          | nil => cases h
          | cons parent higher =>
            obtain ⟨hparent, hhigher⟩ := List.forall_mem_cons.1 habove
            exact ih hhigher hparent h
        · cases h
      · cases hentry : t.entry? (String.ofList p) with
        | error e =>
          rw [hentry] at h
          cases h
        | ok v =>
          rw [hentry] at h
          exact ih (List.forall_mem_cons.2 ⟨ht, habove⟩) (ht.of_found hentry) h

theorem follow_name (above : List FileTree) (t : FileTree) {name : String}
    (hname : Path.IsName name) : follow above t [name.toList] = t.entry? name := by
  have hup : name.toList ≠ ['.', '.'] := fun h => hname.notParent (String.toList_inj.1 h)
  simp only [follow, hname.notIdle, if_neg Bool.false_ne_true, if_neg hup, String.ofList_toList]
  cases t.entry? name <;> rfl

end FileTree

namespace FileSystem

/-- All trees that paths start from can be held by directories. -/
structure Proper (fs : FileSystem) : Prop where
  working : fs.working.Proper
  root : fs.root.Proper

theorem Proper.start {fs : FileSystem} (h : fs.Proper) (path : String) : (fs.start path).Proper := by
  unfold FileSystem.start
  split
  · exact h.root
  · exact h.working

theorem Proper.of_node? {fs : FileSystem} (h : fs.Proper) {path : String} {t : FileTree}
    (ht : fs.node? path = .ok t) : t.Proper := by
  unfold node? at ht
  split at ht
  · cases ht
  · exact .of_follow (fun u hu => absurd hu List.not_mem_nil) (h.start path) ht

/-- Joining a name to a path leads to the entry of what the path leads to. -/
theorem node?_join {fs : FileSystem} {path name : String} {t : FileTree}
    (h : fs.node? path = .ok t) (hname : Path.IsName name) :
    fs.node? (Path.join path name) = t.entry? name := by
  have hpath : path ≠ "" := by
    rintro rfl
    cases h
  obtain ⟨front, idle, hpieces, hidle, -, hjoined⟩ := Path.pieces_join hpath hname
  rw [node?, if_neg hpath, hpieces] at h
  rw [node?, if_neg (Path.join_ne_empty hpath hname), start, Path.isAbsolute_join hpath hname,
    ← start, hjoined]
  rcases FileTree.follow_append [] (fs.start path) front with ⟨e, he⟩ | ⟨above, u, hu⟩
  · rw [he] at h
    cases h
  · have htu : t = u := by
      rw [hu] at h
      rcases hidle with rfl | rfl
      · cases h
        rfl
      · -- a slash at the end only asks for a directory
        have hidle : Path.isIdle [] = true := rfl
        simp only [FileTree.follow, if_pos hidle] at h
        split at h <;> cases h
        rfl
    rw [hu, FileTree.follow_name above u hname, htu]

/-- A file at a place is what the path to the place leads to. -/
theorem node?_joinAll {fs : FileSystem} {path : String} {t : FileTree} {place : List String}
    {bytes : ByteArray} (h : fs.node? path = .ok t) (ht : t.Proper)
    (hfile : t.HasFile place bytes) : fs.node? (Path.joinAll path place) = .ok (.file bytes) := by
  induction hfile generalizing path with
  | here bytes => exact h
  | @inside entries name u rest _ hentry _ ih =>
    have hu : FileTree.entry? (.directory entries) name = .ok u := ht.entry_eq hentry
    cases ht with
    | directory hnames _ hentries =>
      exact ih ((node?_join h (hnames _ hentry)).trans hu) (hentries _ hentry)

theorem readText_of_node? {fs : FileSystem} {path : String} {bytes : ByteArray}
    (h : fs.node? path = .ok (.file bytes)) : fs.readText path = textOf bytes := by
  rw [readText, read, h]
  rfl

end FileSystem

/-! ## Other listings -/

namespace FileTree

/-- The same tree, with the entries of its directories listed in another order. -/
inductive Reordered : FileTree → FileTree → Prop where
  | refl (t : FileTree) : Reordered t t
  | listed {entries entries' : List (String × FileTree)} (h : entries.Perm entries') :
      Reordered (.directory entries) (.directory entries')
  | entry {t t' : FileTree} (before : List (String × FileTree)) (name : String)
      (after : List (String × FileTree)) (h : Reordered t t') :
      Reordered (.directory (before ++ (name, t) :: after))
        (.directory (before ++ (name, t') :: after))
  | trans {t t' t'' : FileTree} (h : Reordered t t') (h' : Reordered t' t'') : Reordered t t''

namespace Reordered

variable {t t' : FileTree}

theorem symm (h : Reordered t t') : Reordered t' t := by
  induction h with
  | refl t => exact .refl t
  | listed h => exact .listed h.symm
  | entry before name after _ ih => exact .entry before name after ih
  | trans _ _ ih ih' => exact .trans ih' ih

theorem isDirectory (h : Reordered t t') : t'.isDirectory = t.isDirectory := by
  induction h with
  | refl t => rfl
  | listed h => rfl
  | entry before name after _ _ => rfl
  | trans _ _ ih ih' => rw [ih', ih]

theorem file {bytes : ByteArray} (h : Reordered t t') (ht : t = .file bytes) :
    t' = .file bytes := by
  induction h with
  | refl t => exact ht
  | listed h => cases ht
  | entry before name after _ _ => cases ht
  | trans _ _ ih ih' => exact ih' (ih ht)

theorem proper (h : Reordered t t') (ht : t.Proper) : t'.Proper := by
  induction h with
  | refl t => exact ht
  | listed h =>
    cases ht with
    | directory hnames hdistinct hentries =>
      refine .directory ?_ ((h.map Prod.fst).nodup_iff.1 hdistinct) ?_
      · exact fun e he => hnames e (h.mem_iff.2 he)
      · exact fun e he => hentries e (h.mem_iff.2 he)
  | entry before name after _ ih =>
    cases ht with
    | directory hnames hdistinct hentries =>
      simp only [List.forall_mem_append, List.forall_mem_cons, List.map_append, List.map_cons]
        at hnames hdistinct hentries
      refine .directory ?_ ?_ ?_
      · simpa only [List.forall_mem_append, List.forall_mem_cons] using hnames
      · simpa only [List.map_append, List.map_cons] using hdistinct
      · simp only [List.forall_mem_append, List.forall_mem_cons]
        exact ⟨hentries.1, ih hentries.2.1, hentries.2.2⟩
  | trans _ _ ih ih' => exact ih' (ih ht)

/-- The same files lie at the same places. -/
theorem hasFile (h : Reordered t t') {place : List String} {bytes : ByteArray}
    (hfile : t.HasFile place bytes) : t'.HasFile place bytes := by
  induction h generalizing place with
  | refl t => exact hfile
  | listed h =>
    cases hfile with
    | inside hentry hfile => exact .inside (h.mem_iff.1 hentry) hfile
  | @entry u u' before name after _ ih =>
    cases hfile with
    | inside hentry hfile =>
      rw [List.mem_append, List.mem_cons] at hentry
      rcases hentry with hentry | hentry | hentry
      · exact .inside (List.mem_append_left _ hentry) hfile
      · cases hentry
        exact .inside (List.mem_append_right _ List.mem_cons_self) (ih hfile)
      · exact .inside (List.mem_append_right _ (List.mem_cons_of_mem _ hentry)) hfile
  | trans _ _ ih ih' => exact ih' (ih hfile)

end Reordered

/-- Two answers are the same error, or trees that differ in their listings only. -/
inductive Alike : Except FileError FileTree → Except FileError FileTree → Prop where
  | error (e : FileError) : Alike (.error e) (.error e)
  | ok {t t' : FileTree} (h : Reordered t t') : Alike (.ok t) (.ok t')

theorem Alike.trans {a b c : Except FileError FileTree} (h : Alike a b) (h' : Alike b c) :
    Alike a c := by
  cases h with
  | error e => exact h'
  | ok h =>
    cases h' with
    | ok h' => exact .ok (h.trans h')

theorem Alike.refl (a : Except FileError FileTree) : Alike a a := by
  cases a with
  | error e => exact .error e
  | ok t => exact .ok (.refl t)

theorem lookup_perm {entries entries' : List (String × FileTree)} (h : entries.Perm entries')
    (hdistinct : (entries.map Prod.fst).Nodup) (name : String) :
    entries'.lookup name = entries.lookup name := by
  have hdistinct' := (h.map Prod.fst).nodup_iff.1 hdistinct
  apply Option.ext
  intro t
  rw [lookup_eq_some_iff hdistinct, lookup_eq_some_iff hdistinct', h.mem_iff]

theorem Reordered.alike_entry {t t' : FileTree} (h : Reordered t t') (ht : t.Proper) (name : String) :
    Alike (t.entry? name) (t'.entry? name) := by
  induction h with
  | refl t => exact .refl _
  | listed h =>
    cases ht with
    | directory _ hdistinct _ =>
      rw [FileTree.entry?, FileTree.entry?, lookup_perm h hdistinct]
      exact .refl _
  | entry before n after h _ =>
    rw [FileTree.entry?, FileTree.entry?, List.lookup_append, List.lookup_append, List.lookup_cons,
      List.lookup_cons]
    cases before.lookup name with
    | some u => exact .refl _
    | none =>
      cases name == n with
      | true => exact .ok h
      | false => exact .refl _
  | trans h _ ih ih' => exact (ih ht).trans (ih' (h.proper ht))

theorem Reordered.follow {above above' : List FileTree} {t t' : FileTree}
    (habove : List.Forall₂ Reordered above above') (h : Reordered t t')
    (hproper : ∀ u ∈ above, u.Proper) (ht : t.Proper) (ps : List (List Char)) :
    Alike (FileTree.follow above t ps) (FileTree.follow above' t' ps) := by
  induction ps generalizing above above' t t' with
  | nil => exact .ok h
  | cons p ps ih =>
    simp only [FileTree.follow, h.isDirectory]
    split
    · split
      · exact ih habove h hproper ht
      · exact .error _
    · split
      · split
        · cases habove with
          | nil => exact .error _
          | cons hparent habove =>
            obtain ⟨hp, hhigher⟩ := List.forall_mem_cons.1 hproper
            exact ih habove hparent hhigher hp
        · exact .error _
      · have halike := h.alike_entry ht (String.ofList p)
        generalize hu : t.entry? (String.ofList p) = found at halike ⊢
        generalize t'.entry? (String.ofList p) = found' at halike ⊢
        cases halike with
        | error e => exact .error e
        | ok hnext =>
          exact ih (.cons h habove) hnext (List.forall_mem_cons.2 ⟨ht, hproper⟩) (ht.of_found hu)

end FileTree

namespace FileSystem

structure Reordered (fs fs' : FileSystem) : Prop where
  working : fs.working.Reordered fs'.working
  root : fs.root.Reordered fs'.root

variable {fs fs' : FileSystem}

theorem Reordered.refl (fs : FileSystem) : fs.Reordered fs := ⟨.refl _, .refl _⟩

theorem Reordered.symm (h : fs.Reordered fs') : fs'.Reordered fs := ⟨h.working.symm, h.root.symm⟩

theorem Reordered.proper (h : fs.Reordered fs') (hfs : fs.Proper) : fs'.Proper :=
  ⟨h.working.proper hfs.working, h.root.proper hfs.root⟩

/-- What a path leads to differs in its listings only. -/
theorem Reordered.node? (h : fs.Reordered fs') (hfs : fs.Proper) (path : String) :
    FileTree.Alike (fs.node? path) (fs'.node? path) := by
  have hstart : (fs.start path).Reordered (fs'.start path) := by
    unfold FileSystem.start
    split
    · exact h.root
    · exact h.working
  unfold FileSystem.node?
  split
  · exact .error _
  · exact hstart.follow .nil (fun u hu => absurd hu List.not_mem_nil) (hfs.start path) _

theorem Reordered.exists_node? (h : fs.Reordered fs') (hfs : fs.Proper) {path : String}
    {t : FileTree} (ht : fs.node? path = .ok t) :
    ∃ t', fs'.node? path = .ok t' ∧ t.Reordered t' := by
  have halike := h.node? hfs path
  rw [ht] at halike
  generalize fs'.node? path = found at halike ⊢
  cases halike with
  | ok h => exact ⟨_, rfl, h⟩

/-- Reading a file does not depend on the listings on the way. -/
theorem Reordered.read (h : fs.Reordered fs') (hfs : fs.Proper) (path : String) :
    fs'.read path = fs.read path := by
  have halike := h.node? hfs path
  unfold FileSystem.read
  generalize fs.node? path = found at halike ⊢
  generalize fs'.node? path = found' at halike ⊢
  cases halike with
  | error e => rfl
  | @ok t t' h =>
    cases t with
    | file bytes => rw [h.file rfl]
    | directory entries =>
      have hdir := h.isDirectory
      cases t' with
      | file bytes => cases hdir
      | directory entries' => rfl

end FileSystem

theorem Ignore.Filter.new_congr {fs fs' : FileSystem} (h : fs.Reordered fs') (hfs : fs.Proper)
    (s : Settings) : Filter.new fs' s = Filter.new fs s := by
  unfold Filter.new rulesOf
  rw [h.read hfs]

end GlyphFold
