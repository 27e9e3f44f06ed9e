import GlyphFold.Proofs.BuiltinGlobs

/-!
# Paths that the built-in globs leave out

A path made of components is left out if a component other than its last one is the name of a
directory that the built-in globs know, or if it ends as minified scripts do. The globs see the bytes
of the whole path, and their wildcards cross slashes; the names are matched as whole components all
the same.

1. `Path.ofComponents`, `Path.pieces_ofComponents`: a path and its pieces
2. `buried_ofComponents_iff`: the directories that it leads through
3. `Filter.ignores_ofComponents_iff`: what a filter of built-in globs says of it
-/

namespace GlyphFold

namespace Path

/-- The components with slashes between them, and one in front of an absolute path. -/
def ofComponents (absolute : Bool) (components : List String) : String :=
  (if absolute then "/" else "") ++ ofNames components

/-- Texts without slashes are the pieces of what is joined from them. -/
theorem pieces_intercalate {p : List Char} {ps : List (List Char)} (h : ∀ q ∈ p :: ps, '/' ∉ q) :
    pieces (List.intercalate ['/'] (p :: ps)) = p :: ps := by
  induction ps generalizing p with
  | nil =>
    rw [List.intercalate_singleton]
    exact pieces_of_not_mem (h p List.mem_cons_self)
  | cons q ps ih =>
    obtain ⟨hp, hps⟩ := List.forall_mem_cons.1 h
    rw [List.intercalate_cons_cons, List.append_assoc, List.singleton_append, pieces_append_slash,
      pieces_of_not_mem hp, ih hps, List.singleton_append]

/-- No component is a piece that one of an absolute path has in front, or that a path without any has
alone: these pieces are empty. -/
theorem mem_dropLast_pieces_ofComponents {absolute : Bool} {components : List String}
    (h : ∀ c ∈ components, '/' ∉ c.toList) {name : String} (hname : name ≠ "") :
    name.toList ∈ (pieces (ofComponents absolute components).toList).dropLast ↔
      name ∈ components.dropLast := by
  have hempty : name.toList ≠ [] := by simpa using hname
  cases components with
  | nil => cases absolute <;> simp [ofComponents, ofNames, ofPieces, pieces, hempty]
  | cons c cs =>
    have hslash : ∀ q ∈ c.toList :: cs.map String.toList, '/' ∉ q := by
      rw [← List.map_cons]
      exact List.forall_mem_map.2 h
    have hnames : pieces (ofNames (c :: cs)).toList = (c :: cs).map String.toList := by
      rw [ofNames, ofPieces, String.toList_ofList, List.map_cons, pieces_intercalate hslash]
    have hmem : name.toList ∈ ((c :: cs).map String.toList).dropLast ↔
        name ∈ (c :: cs).dropLast := by
      rw [← List.map_dropLast, List.mem_map_of_injective fun _ _ => String.toList_inj.1]
    cases absolute with
    | false => rw [ofComponents, if_neg (by decide), String.empty_append, hnames, hmem]
    | true =>
      have hfront : (ofComponents true (c :: cs)).toList = [] ++ '/' :: (ofNames (c :: cs)).toList := by
        rw [ofComponents, if_pos rfl, String.toList_append]
        rfl
      rw [hfront, pieces_append_slash, hnames, List.dropLast_append_of_ne_nil (by simp),
        List.mem_append, hmem]
      simp [pieces, hempty]

end Path

namespace Ignore

theorem builtinDirectories_ne_empty : ∀ name ∈ builtinDirectories, name ≠ "" := by decide

theorem buried_ofComponents_iff {absolute : Bool} {components : List String}
    (h : ∀ c ∈ components, '/' ∉ c.toList) :
    Buried (Path.ofComponents absolute components) ↔
      ∃ c ∈ components.dropLast, c ∈ builtinDirectories := by
  constructor
  · rintro ⟨name, hname, hmem⟩
    have hne := builtinDirectories_ne_empty name hname
    exact ⟨name, (Path.mem_dropLast_pieces_ofComponents h hne).1 hmem, hname⟩
  · rintro ⟨name, hmem, hname⟩
    have hne := builtinDirectories_ne_empty name hname
    exact ⟨name, hname, (Path.mem_dropLast_pieces_ofComponents h hne).2 hmem⟩

theorem rules_rulesOf_of_unread {fs : FileSystem} {s : Settings}
    (hfile : ∀ bytes, fs.read (s.ignoreFile.getD (Path.join s.root ".gitignore")) ≠ .ok bytes) :
    (rulesOf fs s).rules = [] := by
  unfold rulesOf
  split
  · next bytes hread => exact absurd hread (hfile bytes)
  · rfl

namespace Filter

/-- **What the built-in globs leave out.** With the built-in globs, no patterns of the user and no
ignore file there is a filter. Of the paths made of components, absolute or not, it leaves out those
with a component other than the last that is the name of a directory which the globs know, and those
that end as minified scripts do. So it leaves out everything below such a directory, and no path whose
components only contain such a name. -/
theorem ignores_ofComponents_iff {fs : FileSystem} {s : Settings} (hdeps : s.includeDeps = false)
    (hpatterns : s.ignorePatterns = [])
    (hfile : ∀ bytes, fs.read (s.ignoreFile.getD (Path.join s.root ".gitignore")) ≠ .ok bytes) :
    ∃ f, Filter.new fs s = .ok f ∧
      ∀ (absolute : Bool) (components : List String) (isDirectory : Bool),
        (∀ c ∈ components, c ≠ "" ∧ '/' ∉ c.toList) →
        (f.ignores (Path.ofComponents absolute components) isDirectory = true ↔
          (∃ c ∈ components.dropLast, c ∈ builtinDirectories) ∨
            minifiedEnding.toList <:+ (Path.ofComponents absolute components).toList) ∧
        (∀ above name below, components = above ++ name :: below → below ≠ [] →
          name ∈ builtinDirectories →
          f.ignores (Path.ofComponents absolute components) isDirectory = true) ∧
        ((∀ c ∈ components, c ∉ builtinDirectories) →
          ¬ minifiedEnding.toList <:+ (Path.ofComponents absolute components).toList →
          f.ignores (Path.ofComponents absolute components) isDirectory = false) := by
  refine ⟨_, new_of_builtin hpatterns hdeps, fun absolute components isDirectory hcomponents => ?_⟩
  have hiff := ignores_iff (f := ⟨builtinPatterns, rulesOf fs s⟩) rfl (rules_rulesOf_of_unread hfile)
    (Path.ofComponents absolute components) isDirectory
  rw [buried_ofComponents_iff fun c hc => (hcomponents c hc).2] at hiff
  refine ⟨hiff, fun above name below heq hbelow hname => hiff.2 (.inl ⟨name, ?_, hname⟩),
    fun hnames hending => ?_⟩
  · rw [heq, List.dropLast_append_of_ne_nil (List.cons_ne_nil _ _),
      List.dropLast_cons_of_ne_nil hbelow]
    exact List.mem_append_right above List.mem_cons_self
  · rw [Bool.eq_false_iff]
    rintro hignored
    rcases hiff.1 hignored with ⟨c, hc, hname⟩ | hminified
    · exact hnames c (List.dropLast_subset _ hc) hname
    · exact hending hminified

/-- A directory whose name only contains that of another stays, what lies below the other does not, and
a file may have the name. -/
theorem ignores_builds :
    ∃ f, Filter.new ⟨.empty, .empty⟩ {} = .ok f ∧
      f.ignores "/src/builds/venv.py" false = false ∧ f.ignores "/src/build/lib/a.py" false = true ∧
      f.ignores "src/dist" true = false ∧ f.ignores "a.min.js" false = true := by
  have hread : FileSystem.read ⟨.empty, .empty⟩ (Path.join "." ".gitignore") = .error .notFound := rfl
  obtain ⟨f, hf, hall⟩ := @ignores_ofComponents_iff ⟨.empty, .empty⟩ {} rfl rfl
    fun bytes hbytes => nomatch hread.symm.trans hbytes
  refine ⟨f, hf, ?_, ?_, ?_, ?_⟩
  · exact (hall true ["src", "builds", "venv.py"] false (by decide)).2.2 (by decide)
      (by decide +kernel)
  · exact (hall true ["src", "build", "lib", "a.py"] false (by decide)).2.1 ["src"] "build"
      ["lib", "a.py"] rfl (by decide) (by decide)
  · rw [Bool.eq_false_iff]
    exact mt (hall false ["src", "dist"] true (by decide)).1.1 (by decide +kernel)
  · exact (hall false ["a.min.js"] false (by decide)).1.2 (.inr (by decide +kernel))

end Filter

end Ignore

end GlyphFold
