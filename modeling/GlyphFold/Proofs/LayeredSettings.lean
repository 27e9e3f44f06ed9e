import GlyphFold.Proofs.BuiltinGlobs

/-!
# Settings over a project file

A project file fills what the settings leave open, and adds patterns and flags. Merging it once more
adds its patterns a second time, which matches nothing new, and changes nothing else.

1. `languagesOf_eq_ok_iff`, `languagesOf_eq_error_iff`: the names of languages in a project file
2. `Settings.Layers`, `Settings.merge_eq_error_iff`, `Settings.layers_of_merge`: what the merged settings
   have of the two
3. `Settings.merge_again`: merging once more
4. `Ignore.Filter.new_repeated`: a filter with some of its patterns repeated
5. `Settings.merge_layered`
-/

namespace GlyphFold

/-! ## Languages -/

theorem languagesOf_eq_ok_iff {names : List String} {languages : List Language} :
    languagesOf names = .ok languages ↔ names.map Language.ofName? = languages.map some := by
  induction names generalizing languages with
  | nil => cases languages <;> simp [languagesOf]
  | cons name names ih =>
    rw [languagesOf, List.map_cons]
    cases hname : Language.ofName? name with
    | none => cases languages <;> simp
    | some l =>
      cases languages with
      | nil => cases hrest : languagesOf names <;> simp [Except.map]
      | cons l' rest =>
        simp only [List.map_cons, List.cons.injEq, Option.some.injEq, ← ih]
        cases languagesOf names <;> simp [Except.map]

/-- The name that is reported is the first one that is no language. -/
theorem languagesOf_eq_error_iff {names : List String} {e : UnknownLanguage} :
    languagesOf names = .error e ↔ ∃ known rest, names = known ++ e.name :: rest ∧
      (∀ name ∈ known, Language.ofName? name ≠ none) ∧ Language.ofName? e.name = none := by
  induction names with
  | nil => simp [languagesOf]
  | cons name names ih =>
    rw [languagesOf]
    cases hname : Language.ofName? name with
    | none =>
      constructor
      · rintro ⟨⟩
        exact ⟨[], names, rfl, nofun, hname⟩
      · rintro ⟨known, rest, heq, hknown, -⟩
        cases known with
        | nil =>
          obtain ⟨rfl, -⟩ := List.cons.inj heq
          rfl
        | cons first known =>
          obtain ⟨rfl, -⟩ := List.cons.inj heq
          exact absurd hname (hknown name List.mem_cons_self)
    | some l =>
      have hmap : (languagesOf names).map (l :: ·) = .error e ↔ languagesOf names = .error e := by
        cases languagesOf names <;> simp [Except.map]
      rw [hmap, ih]
      constructor
      · rintro ⟨known, rest, rfl, hknown, he⟩
        refine ⟨name :: known, rest, rfl, List.forall_mem_cons.2 ⟨?_, hknown⟩, he⟩
        rw [hname]
        exact Option.some_ne_none l
      · rintro ⟨known, rest, heq, hknown, he⟩
        cases known with
        | nil =>
          obtain ⟨rfl, -⟩ := List.cons.inj heq
          exact absurd (hname.symm.trans he) (Option.some_ne_none l)
        | cons first known =>
          obtain ⟨rfl, rfl⟩ := List.cons.inj heq
          exact ⟨known, rest, rfl, fun n hn => hknown n (List.mem_cons_of_mem name hn), he⟩

namespace Settings

/-! ## Merging -/

variable {s m : Settings} {file : ProjectFile} {base : String}

/-- What settings merged from others and a project file have of the two. -/
structure Layers (s : Settings) (file : ProjectFile) (base : String) (m : Settings) : Prop where
  root : m.root = s.root
  ignoreFile : m.ignoreFile = s.ignoreFile
  mappingsKept : ∀ path, s.mappingsFile = some path → m.mappingsFile = some path
  mappingsTaken : s.mappingsFile = none → m.mappingsFile = file.mappings.map (Path.join base)
  languagesKept : ∀ languages, s.languages = some languages → m.languages = some languages
  languagesOpen : s.languages = none → file.languages = [] → m.languages = none
  languagesTaken : s.languages = none → file.languages ≠ [] → ∃ languages,
    m.languages = some languages ∧ file.languages.map Language.ofName? = languages.map some
  threadsKept : s.threads ≠ 0 → m.threads = s.threads
  threadsTaken : s.threads = 0 → m.threads = file.threads.getD 0
  ignorePatterns : m.ignorePatterns = s.ignorePatterns ++ file.ignore
  textMode : m.textMode = (s.textMode || file.textMode)
  includeDeps : m.includeDeps = (s.includeDeps || file.includeDeps)

/-- The languages decide whether there are merged settings; the rest is always merged. -/
theorem merge_eq (s : Settings) (file : ProjectFile) (base : String) :
    s.merge file base = (s.mergeLanguages file).map fun languages =>
      { s with
        languages
        mappingsFile := s.mappingsFile <|> file.mappings.map (Path.join base)
        ignorePatterns := s.ignorePatterns ++ file.ignore
        threads := if s.threads = 0 then file.threads.getD 0 else s.threads
        textMode := s.textMode || file.textMode
        includeDeps := s.includeDeps || file.includeDeps } := by
  unfold merge
  cases s.mergeLanguages file <;> rfl

theorem mergeLanguages_of_some {languages : List Language} (h : s.languages = some languages)
    (file : ProjectFile) : s.mergeLanguages file = .ok (some languages) := by
  rw [mergeLanguages, h]

theorem mergeLanguages_of_none (h : s.languages = none) (hne : file.languages ≠ []) :
    s.mergeLanguages file = (languagesOf file.languages).map some := by
  obtain ⟨name, names, hnames⟩ := List.exists_cons_of_ne_nil hne
  rw [mergeLanguages, h, hnames]

theorem mergeLanguages_of_nil (h : s.languages = none) (hnil : file.languages = []) :
    s.mergeLanguages file = .ok none := by
  rw [mergeLanguages, h, hnil]

theorem merge_eq_error_iff {e : UnknownLanguage} :
    s.merge file base = .error e ↔ s.languages = none ∧ languagesOf file.languages = .error e := by
  have hmerge : s.merge file base = .error e ↔ s.mergeLanguages file = .error e := by
    rw [merge_eq]
    cases s.mergeLanguages file <;> simp [Except.map]
  rw [hmerge]
  cases hs : s.languages with
  | some languages => simp [mergeLanguages_of_some hs]
  | none =>
    by_cases hnil : file.languages = []
    · simp [mergeLanguages_of_nil hs hnil, hnil, languagesOf]
    · rw [mergeLanguages_of_none hs hnil]
      cases languagesOf file.languages <;> simp [Except.map]

theorem layers_of_merge (h : s.merge file base = .ok m) : s.Layers file base m := by
  rw [merge_eq] at h
  cases hlanguages : s.mergeLanguages file with
  | error e =>
    rw [hlanguages] at h
    cases h
  | ok languages =>
    rw [hlanguages] at h
    cases h
    refine ⟨rfl, rfl, fun path hpath => ?_, fun hnone => ?_, fun ls hls => ?_, fun hnone hnil => ?_,
      fun hnone hne => ?_, fun hne => if_neg hne, fun hzero => if_pos hzero, rfl, rfl, rfl⟩
    · simp [hpath]
    · simp [hnone]
    · exact Except.ok.inj (hlanguages.symm.trans (mergeLanguages_of_some hls file))
    · exact Except.ok.inj (hlanguages.symm.trans (mergeLanguages_of_nil hnone hnil))
    · rw [mergeLanguages_of_none hnone hne] at hlanguages
      cases hread : languagesOf file.languages with
      | error e =>
        rw [hread] at hlanguages
        cases hlanguages
      | ok ls =>
        rw [hread] at hlanguages
        exact ⟨ls, (Except.ok.inj hlanguages).symm, languagesOf_eq_ok_iff.1 hread⟩

/-- What a project file can fill, it has filled the first time. -/
theorem merge_again (h : s.Layers file base m) :
    m.merge file base = .ok { m with ignorePatterns := m.ignorePatterns ++ file.ignore } := by
  have hlanguages : m.mergeLanguages file = .ok m.languages := by
    cases hm : m.languages with
    | some languages => exact mergeLanguages_of_some hm file
    | none =>
      refine mergeLanguages_of_nil hm (Classical.not_not.1 fun hne => ?_)
      cases hs : s.languages with
      | some languages => exact nomatch hm.symm.trans (h.languagesKept _ hs)
      | none =>
        obtain ⟨languages, hsome, -⟩ := h.languagesTaken hs hne
        exact nomatch hm.symm.trans hsome
  have hmappings : (m.mappingsFile <|> file.mappings.map (Path.join base)) = m.mappingsFile := by
    cases hs : s.mappingsFile with
    | some path => simp [h.mappingsKept path hs]
    | none => cases hfile : file.mappings <;> simp [h.mappingsTaken hs, hfile]
  have hthreads : (if m.threads = 0 then file.threads.getD 0 else m.threads) = m.threads := by
    split
    · next hzero =>
      have hs : s.threads = 0 := Classical.not_not.1 fun hne => hne (h.threadsKept hne ▸ hzero)
      exact (h.threadsTaken hs).symm
    · rfl
  have htext : (m.textMode || file.textMode) = m.textMode := by
    rw [h.textMode, Bool.or_assoc, Bool.or_self]
  have hdeps : (m.includeDeps || file.includeDeps) = m.includeDeps := by
    rw [h.includeDeps, Bool.or_assoc, Bool.or_self]
  rw [merge_eq, hlanguages, hmappings, hthreads, htext, hdeps]
  rfl

end Settings

/-! ## Repeated patterns -/

section Traverse

variable {α β ε : Type} {f : α → Except ε β} {xs ys : List α} {as : List β}

theorem exists_of_mapM_eq_ok (h : xs.mapM f = .ok as) {x : α} (hx : x ∈ xs) :
    ∃ a ∈ as, f x = .ok a := by
  induction xs generalizing as with
  | nil => cases hx
  | cons y xs ih =>
    rw [List.mapM_cons] at h
    cases hy : f y with
    | error e =>
      rw [hy] at h
      cases h
    | ok b =>
      cases hxs : xs.mapM f with
      | error e =>
        rw [hy, hxs] at h
        cases h
      | ok bs =>
        rw [hy, hxs] at h
        cases h
        rcases List.mem_cons.1 hx with rfl | hx
        · exact ⟨b, List.mem_cons_self, hy⟩
        · obtain ⟨a, ha, hfa⟩ := ih hxs hx
          exact ⟨a, List.mem_cons_of_mem b ha, hfa⟩

/-- Items that were all mapped once are mapped once more, to what they were mapped to before. -/
theorem exists_mapM_of_subset (h : xs.mapM f = .ok as) (hsub : ys ⊆ xs) :
    ∃ bs, ys.mapM f = .ok bs ∧ bs ⊆ as := by
  induction ys with
  | nil => exact ⟨[], rfl, List.nil_subset as⟩
  | cons y ys ih =>
    obtain ⟨hy, hys⟩ := List.cons_subset.1 hsub
    obtain ⟨a, ha, hfa⟩ := exists_of_mapM_eq_ok h hy
    obtain ⟨bs, hbs, hbsub⟩ := ih hys
    refine ⟨a :: bs, ?_, List.cons_subset.2 ⟨ha, hbsub⟩⟩
    rw [List.mapM_cons, hfa, hbs]
    rfl

end Traverse

namespace Ignore.Filter

variable {fs : FileSystem} {s : Settings}

/-- Only the user's globs can be unreadable. -/
theorem new_eq (fs : FileSystem) (s : Settings) :
    Filter.new fs s = (s.ignorePatterns.mapM readGlob).map fun custom =>
      ⟨(if s.includeDeps then [] else builtinPatterns) ++ custom, rulesOf fs s⟩ := by
  have hbuiltin : (if s.includeDeps then [] else builtinGlobs).mapM readGlob =
      .ok (if s.includeDeps then [] else builtinPatterns) := by
    split
    · rfl
    · exact readGlob_builtin
  unfold Filter.new
  rw [hbuiltin]
  cases s.ignorePatterns.mapM readGlob <;> rfl

/-- Repeating some of its patterns makes no filter unreadable and none readable, and filters that
are built with and without them ignore the same. -/
theorem new_repeated {more : List String} (hmore : more ⊆ s.ignorePatterns) :
    (∀ e, Filter.new fs s = .error e ↔
      Filter.new fs { s with ignorePatterns := s.ignorePatterns ++ more } = .error e) ∧
    ∀ f f', Filter.new fs s = .ok f →
      Filter.new fs { s with ignorePatterns := s.ignorePatterns ++ more } = .ok f' →
        ∀ path isDirectory, f'.ignores path isDirectory = f.ignores path isDirectory := by
  rw [new_eq, new_eq]
  simp only [List.mapM_append]
  cases hcustom : s.ignorePatterns.mapM readGlob with
  | error e => exact ⟨fun _ => Iff.rfl, nofun⟩
  | ok custom =>
    obtain ⟨again, hagain, hsub⟩ := exists_mapM_of_subset hcustom hmore
    rw [hagain]
    refine ⟨fun _ => ⟨nofun, nofun⟩, ?_⟩
    rintro f f' ⟨⟩ ⟨⟩ path isDirectory
    have hany (p : Glob.Pattern → Bool) (hp : again.any p = true) : custom.any p = true := by
      obtain ⟨pattern, hpattern, haccepted⟩ := List.any_eq_true.1 hp
      exact List.any_eq_true.2 ⟨pattern, hsub hpattern, haccepted⟩
    have hglobs (p : Glob.Pattern → Bool) : (custom ++ again).any p = custom.any p := by
      rw [List.any_append, Bool.or_eq_left_iff_imp]
      exact hany p
    unfold ignores
    simp only [List.any_append, hglobs]
    rfl

end Ignore.Filter

namespace Settings

/-- **Settings over a project file.** Merging fails exactly if the settings leave the languages open
and the project file has a name that is none, and it reports the first such name. Otherwise the merged
settings have what the settings say, and where these leave something open what the project file says;
patterns are joined, and marks are set that either sets. Merging the project file once more succeeds
and changes nothing but that its patterns come twice. Both settings fail to give a filter for the
same globs, and any filters that they give ignore the same. -/
theorem merge_layered (s : Settings) (file : ProjectFile) (base : String) :
    (∀ e, s.merge file base = .error e ↔ s.languages = none ∧ ∃ known rest,
      file.languages = known ++ e.name :: rest ∧
        (∀ name ∈ known, Language.ofName? name ≠ none) ∧ Language.ofName? e.name = none) ∧
    ∀ m, s.merge file base = .ok m → s.Layers file base m ∧
      ∃ again, m.merge file base = .ok again ∧
        { again with ignorePatterns := m.ignorePatterns } = m ∧
        ∀ fs, (∀ e, Ignore.Filter.new fs m = .error e ↔ Ignore.Filter.new fs again = .error e) ∧
          ∀ f f', Ignore.Filter.new fs m = .ok f → Ignore.Filter.new fs again = .ok f' →
            ∀ path isDirectory, f'.ignores path isDirectory = f.ignores path isDirectory := by
  refine ⟨fun e => by rw [merge_eq_error_iff, languagesOf_eq_error_iff], fun m hm => ?_⟩
  have hlayers := layers_of_merge hm
  have hmore : file.ignore ⊆ m.ignorePatterns := by
    rw [hlayers.ignorePatterns]
    exact List.subset_append_right _ _
  exact ⟨hlayers, _, merge_again hlayers, rfl, fun fs => Ignore.Filter.new_repeated hmore⟩

/-- The file fills the languages and the mappings, not the threads; of two names that are no languages
it is refused for the first. -/
theorem merge_layered_glyphs :
    (∃ m, merge { threads := 8 }
        { mappings := some "glyphs.json", languages := ["Python", "ts"], threads := some 2 } "/repo" =
          .ok m ∧
      m.mappingsFile = some "/repo/glyphs.json" ∧ m.languages = some [.python, .typescript] ∧
      m.threads = 8) ∧
    merge {} { languages := ["py", "cobol", "ada"] } "." = .error ⟨"cobol"⟩ := by
  constructor
  · obtain ⟨m, hm⟩ : ∃ m, merge { threads := 8 }
        { mappings := some "glyphs.json", languages := ["Python", "ts"], threads := some 2 } "/repo" =
          .ok m := ⟨_, rfl⟩
    have h := ((merge_layered _ _ _).2 m hm).1
    obtain ⟨languages, hlanguages, hnames⟩ := h.languagesTaken rfl (by decide)
    have hread : ["Python", "ts"].map Language.ofName? = [.python, .typescript].map some := by
      decide +kernel
    refine ⟨m, hm, (h.mappingsTaken rfl).trans (by decide +kernel), ?_, h.threadsKept (by decide)⟩
    rw [hlanguages, (List.map_inj_right fun _ _ => Option.some.inj).1 (hread.symm.trans hnames)]
  · exact ((merge_layered _ _ _).1 ⟨"cobol"⟩).2
      ⟨rfl, ["py"], ["ada"], rfl, by decide +kernel, by decide +kernel⟩

end Settings

end GlyphFold
