import GlyphFold.Ignore.Filter
import GlyphFold.Proofs.PathNames

/-!
# What the built-in globs leave out

The built-in globs name directories of dependencies and build results, wherever in a path they stand,
and minified scripts. They are matched against the bytes of the whole path. Since the words in them
are ASCII, that is the same as looking for these words between the slashes of the path.

1. `Text.utf8_eq_append_word`: a word of ASCII among the bytes of a text is a word of the text
2. `Glob.accepts_directoryGlob`, `Glob.accepts_minifiedGlob`: what the two kinds of globs accept
3. `Ignore.Filter.ignores_iff`: what a filter of built-in globs leaves out
-/

namespace GlyphFold

/-! ## Words among bytes -/

namespace Text

/-- A character is one byte below 128, or all of its bytes are others. -/
theorem encodeChar_cases (c : Char) :
    (c.toNat < 128 ∧ String.utf8EncodeChar c = [UInt8.ofNat c.toNat]) ∨
      (128 ≤ c.toNat ∧ ∀ b ∈ String.utf8EncodeChar c, 128 ≤ b.toNat) := by
  have htoNat : c.toNat = c.val.toNat := rfl
  by_cases h : c.toNat < 128
  · refine .inl ⟨h, ?_⟩
    rw [String.utf8EncodeChar, if_pos (by omega), htoNat]
  · refine .inr ⟨by omega, ?_⟩
    rw [String.utf8EncodeChar, if_neg (by omega)]
    split
    · simp
      omega
    · split <;> simp <;> omega

theorem utf8_singleton {c : Char} (hc : c.toNat < 128) : utf8 [c] = [UInt8.ofNat c.toNat] := by
  rw [utf8_cons, utf8_nil, List.append_nil]
  exact ((encodeChar_cases c).resolve_right fun h => by omega).2

theorem utf8_eq_nil_iff {cs : List Char} : utf8 cs = [] ↔ cs = [] := by
  constructor
  · intro h
    cases cs with
    | nil => rfl
    | cons c cs => exact absurd (List.append_eq_nil_iff.1 h).1 String.utf8EncodeChar_ne_nil
  · rintro rfl
    rfl

/-- A byte below 128 in a text is a character of its own. -/
theorem utf8_eq_append_ascii {cs : List Char} {u v : List UInt8} {c : Char} (hc : c.toNat < 128)
    (h : utf8 cs = u ++ utf8 [c] ++ v) : ∃ a b, cs = a ++ c :: b ∧ utf8 a = u ∧ utf8 b = v := by
  rw [utf8_singleton hc] at h
  have hbyte : (UInt8.ofNat c.toNat).toNat = c.toNat := by
    rw [UInt8.toNat_ofNat', Nat.mod_eq_of_lt (by omega)]
  induction cs generalizing u with
  | nil => simp at h
  | cons d cs ih =>
    rw [utf8_cons, List.append_assoc] at h
    rcases List.append_eq_append_iff.1 h with ⟨u', hu, hrest⟩ | ⟨w, hd, hrest⟩
    · obtain ⟨a, b, rfl, ha, hb⟩ := ih (by rw [hrest, List.append_assoc])
      exact ⟨d :: a, b, rfl, by rw [utf8_cons, ha, hu], hb⟩
    · cases w with
      | nil =>
        obtain ⟨a, b, rfl, ha, hb⟩ := ih (u := []) hrest.symm
        refine ⟨d :: a, b, rfl, ?_, hb⟩
        rw [utf8_cons, ha, hd, List.append_nil, List.append_nil]
      | cons x w =>
        obtain ⟨rfl, rfl⟩ := List.cons.inj hrest
        rcases encodeChar_cases d with ⟨hlt, hone⟩ | ⟨-, hmany⟩
        · rw [hone] at hd
          have hbyte' : (UInt8.ofNat d.toNat).toNat = d.toNat := by
            rw [UInt8.toNat_ofNat', Nat.mod_eq_of_lt (by omega)]
          cases u with
          | nil =>
            obtain ⟨hdc, rfl⟩ := List.cons.inj hd
            obtain rfl : d = c := by
              rw [← Char.toNat_inj, ← hbyte, ← hbyte', hdc]
            exact ⟨[], cs, rfl, rfl, rfl⟩
          | cons y u => simp at hd
        · have hle := hmany _ (hd ▸ List.mem_append_right u List.mem_cons_self)
          omega

theorem utf8_eq_word_append {w cs : List Char} {v : List UInt8} (hw : ∀ c ∈ w, c.toNat < 128)
    (h : utf8 cs = utf8 w ++ v) : ∃ b, cs = w ++ b ∧ utf8 b = v := by
  induction w generalizing cs with
  | nil => exact ⟨cs, rfl, h⟩
  | cons c w ih =>
    obtain ⟨hc, hw⟩ := List.forall_mem_cons.1 hw
    have hsplit : utf8 cs = [] ++ utf8 [c] ++ (utf8 w ++ v) := by simp [h]
    obtain ⟨a, b, rfl, ha, hb⟩ := utf8_eq_append_ascii hc hsplit
    obtain ⟨rest, rfl, hrest⟩ := ih hw hb
    rw [utf8_eq_nil_iff.1 ha]
    exact ⟨rest, rfl, hrest⟩

/-- A word of ASCII among the bytes of a text is a word of the text. -/
theorem utf8_eq_append_word {w cs : List Char} {u v : List UInt8} (hne : w ≠ [])
    (hw : ∀ c ∈ w, c.toNat < 128) (h : utf8 cs = u ++ utf8 w ++ v) :
    ∃ a b, cs = a ++ w ++ b ∧ utf8 a = u ∧ utf8 b = v := by
  obtain ⟨c, w, rfl⟩ := List.exists_cons_of_ne_nil hne
  obtain ⟨hc, hw⟩ := List.forall_mem_cons.1 hw
  have hsplit : utf8 cs = u ++ utf8 [c] ++ (utf8 w ++ v) := by simp [h]
  obtain ⟨a, b, rfl, ha, hb⟩ := utf8_eq_append_ascii hc hsplit
  obtain ⟨rest, rfl, hrest⟩ := utf8_eq_word_append hw hb
  exact ⟨a, rest, by simp, ha, hrest⟩

end Text

/-! ## What the globs accept -/

namespace Glob

theorem accepts_sequence_cons {p : Pattern} {ps : List Pattern} {s : List UInt8} :
    (Pattern.sequence (p :: ps)).Accepts s ↔
      ∃ u v, s = u ++ v ∧ p.Accepts u ∧ (Pattern.sequence ps).Accepts v := Iff.rfl

theorem accepts_sequence_append {ps qs : List Pattern} {s : List UInt8} :
    (Pattern.sequence (ps ++ qs)).Accepts s ↔
      ∃ u v, s = u ++ v ∧ (Pattern.sequence ps).Accepts u ∧ (Pattern.sequence qs).Accepts v := by
  induction ps generalizing s with
  | nil =>
    constructor
    · intro h
      exact ⟨[], s, rfl, rfl, h⟩
    · rintro ⟨u, v, rfl, rfl, h⟩
      exact h
  | cons p ps ih =>
    rw [List.cons_append, accepts_sequence_cons]
    constructor
    · rintro ⟨u, v, rfl, hu, hv⟩
      obtain ⟨u', v', rfl, hu', hv'⟩ := ih.1 hv
      exact ⟨u ++ u', v', by rw [List.append_assoc], ⟨u, u', rfl, hu, hu'⟩, hv'⟩
    · rintro ⟨_, v', rfl, ⟨u, u', rfl, hu, hu'⟩, hv'⟩
      exact ⟨u, u' ++ v', by rw [List.append_assoc], hu, ih.2 ⟨u', v', rfl, hu', hv'⟩⟩

theorem accepts_bytes {bytes s : List UInt8} :
    (Pattern.sequence (bytes.map fun b => .byte (· == b))).Accepts s ↔ s = bytes := by
  induction bytes generalizing s with
  | nil => exact Iff.rfl
  | cons b bytes ih =>
    rw [List.map_cons, accepts_sequence_cons]
    constructor
    · rintro ⟨_, v, rfl, ⟨c, rfl, hc⟩, hv⟩
      rw [ih.1 hv, eq_of_beq hc]
      rfl
    · rintro rfl
      exact ⟨[b], bytes, rfl, ⟨b, rfl, beq_self_eq_true b⟩, ih.2 rfl⟩

theorem accepts_exactly {c : Char} {s : List UInt8} :
    (exactly c).Accepts s ↔ s = Text.utf8 [c] := accepts_bytes

theorem accepts_anything (s : List UInt8) : anything.Accepts s := fun _ _ => rfl

/-- Characters stand for their bytes. -/
theorem accepts_word {d : Dialect} {w : List Char} {s : List UInt8} :
    (patternOf d (w.map .char)).Accepts s ↔ s = Text.utf8 w := by
  induction w generalizing s with
  | nil => exact Iff.rfl
  | cons c w ih =>
    show (Pattern.sequence (exactly c :: ((w.map Token.char).map (·.pattern d)))).Accepts s ↔ _
    rw [accepts_sequence_cons]
    constructor
    · rintro ⟨u, v, rfl, hu, hv⟩
      rw [accepts_exactly.1 hu, ih.1 hv]
      simp
    · rintro rfl
      exact ⟨Text.utf8 [c], Text.utf8 w, by simp, accepts_exactly.2 rfl, ih.2 rfl⟩

theorem accepts_patternOf_append {d : Dialect} {ts ts' : List Token} {s : List UInt8} :
    (patternOf d (ts ++ ts')).Accepts s ↔
      ∃ u v, s = u ++ v ∧ (patternOf d ts).Accepts u ∧ (patternOf d ts').Accepts v := by
  rw [patternOf, List.map_append, accepts_sequence_append]
  exact Iff.rfl

theorem accepts_token {d : Dialect} {t : Token} {s : List UInt8} :
    (patternOf d [t]).Accepts s ↔ (t.pattern d).Accepts s := by
  constructor
  · rintro ⟨u, _, rfl, hu, rfl⟩
    rwa [List.append_nil]
  · intro h
    exact ⟨s, [], (List.append_nil s).symm, h, rfl⟩

/-- Nothing, or anything up to a slash. -/
theorem accepts_leading {d : Dialect} {s : List UInt8} :
    (patternOf d [.leading]).Accepts s ↔ s = [] ∨ ∃ u, s = u ++ Text.utf8 ['/'] := by
  rw [accepts_token]
  constructor
  · rintro ((rfl | h) | ⟨u, v, rfl, -, h⟩)
    · exact .inl rfl
    · exact .inr ⟨[], accepts_exactly.1 h⟩
    · exact .inr ⟨u, by rw [accepts_exactly.1 h]⟩
  · rintro (rfl | ⟨u, rfl⟩)
    · exact .inl (.inl rfl)
    · exact .inr ⟨u, _, rfl, accepts_anything u, accepts_exactly.2 rfl⟩

/-- A slash and anything behind it. -/
theorem accepts_trailing {d : Dialect} {s : List UInt8} :
    (patternOf d [.trailing]).Accepts s ↔ ∃ v, s = Text.utf8 ['/'] ++ v := by
  rw [accepts_token]
  constructor
  · rintro ⟨u, v, rfl, h, -⟩
    exact ⟨v, by rw [accepts_exactly.1 h]⟩
  · rintro ⟨v, rfl⟩
    exact ⟨_, v, rfl, accepts_exactly.2 rfl, accepts_anything v⟩

/-- The glob of everything below directories of a name. -/
def directoryGlob (name : String) : Pattern :=
  patternOf .path ([.leading] ++ name.toList.map .char ++ [.trailing])

/-- The glob of files whose names have an ending. -/
def endingGlob (ending : String) : Pattern :=
  patternOf .path ([.leading, .anyBytes] ++ ending.toList.map .char)

theorem admits_directoryGlob {name path : String} (hslash : '/' ∉ name.toList)
    (hascii : ∀ c ∈ name.toList, c.toNat < 128) :
    (directoryGlob name).admits (Text.utf8 path.toList) = true ↔
      name.toList ∈ (Path.pieces path.toList).dropLast := by
  rw [Pattern.admits_iff, Path.mem_dropLast_pieces_iff hslash, directoryGlob,
    accepts_patternOf_append]
  have hword : name.toList ++ ['/'] ≠ [] := by simp
  have hwordAscii : ∀ c ∈ name.toList ++ ['/'], c.toNat < 128 :=
    List.forall_mem_append.2 ⟨hascii, List.forall_mem_singleton.2 (by decide)⟩
  constructor
  · rintro ⟨s, t, hsplit, hs, ht⟩
    obtain ⟨u, w, rfl, hu, hw⟩ := accepts_patternOf_append.1 hs
    obtain ⟨v, rfl⟩ := accepts_trailing.1 ht
    rw [accepts_word.1 hw] at hsplit
    obtain ⟨a, b, hpath, ha, hb⟩ :=
      Text.utf8_eq_append_word hword hwordAscii (u := u) (v := v) (by simpa using hsplit)
    refine ⟨a, b, by simpa using hpath, ?_⟩
    rcases accepts_leading.1 hu with rfl | ⟨u', rfl⟩
    · exact .inl (Text.utf8_eq_nil_iff.1 ha)
    · obtain ⟨front, behind, rfl, -, hbehind⟩ :=
        Text.utf8_eq_append_ascii (c := '/') (by decide) (u := u') (v := []) (by rw [ha, List.append_nil])
      rw [Text.utf8_eq_nil_iff.1 hbehind]
      exact .inr ⟨front, rfl⟩
  · rintro ⟨a, b, hpath, ha⟩
    refine ⟨Text.utf8 (a ++ name.toList), Text.utf8 ('/' :: b), by rw [hpath, Text.utf8_append], ?_,
      accepts_trailing.2 ⟨Text.utf8 b, by simp⟩⟩
    refine accepts_patternOf_append.2 ⟨Text.utf8 a, Text.utf8 name.toList, Text.utf8_append _ _,
      accepts_leading.2 ?_, accepts_word.2 rfl⟩
    rcases ha with rfl | ⟨front, rfl⟩
    · exact .inl rfl
    · exact .inr ⟨Text.utf8 front, Text.utf8_append _ _⟩

theorem admits_endingGlob {ending path : String} (hne : ending ≠ "")
    (hascii : ∀ c ∈ ending.toList, c.toNat < 128) :
    (endingGlob ending).admits (Text.utf8 path.toList) = true ↔
      ending.toList <:+ path.toList := by
  rw [Pattern.admits_iff, endingGlob, accepts_patternOf_append]
  constructor
  · rintro ⟨u, v, hsplit, -, hv⟩
    rw [accepts_word.1 hv] at hsplit
    obtain ⟨a, b, hpath, -, hb⟩ := Text.utf8_eq_append_word (by simpa using hne) hascii
      (u := u) (v := []) (by rw [hsplit, List.append_nil])
    rw [Text.utf8_eq_nil_iff.1 hb, List.append_nil] at hpath
    exact ⟨a, hpath.symm⟩
  · rintro ⟨a, hpath⟩
    refine ⟨Text.utf8 a, Text.utf8 ending.toList, by rw [← hpath, Text.utf8_append], ?_,
      accepts_word.2 rfl⟩
    exact (@accepts_patternOf_append _ [.leading] [.anyBytes] _).2 ⟨[], Text.utf8 a, rfl,
      accepts_leading.2 (.inl rfl), accepts_token.2 fun _ _ => rfl⟩

end Glob

/-! ## Filters of built-in globs -/

namespace Ignore

/-- The names of the directories whose contents the built-in globs leave out. -/
def builtinDirectories : List String :=
  ["node_modules", ".venv", "venv", "__pycache__", "dist", "build", ".git"]

def minifiedEnding : String := ".min.js"

/-- A path leads through a directory that the built-in globs name. -/
def Buried (path : String) : Prop :=
  ∃ name ∈ builtinDirectories, name.toList ∈ (Path.pieces path.toList).dropLast

def Minified (path : String) : Prop := minifiedEnding.toList <:+ path.toList

/-- The patterns of the built-in globs. -/
def builtinPatterns : List Glob.Pattern :=
  builtinDirectories.map Glob.directoryGlob ++ [Glob.endingGlob minifiedEnding]

theorem readGlob_builtin : builtinGlobs.mapM readGlob = .ok builtinPatterns := rfl

theorem builtinDirectories_plain {name : String} (h : name ∈ builtinDirectories) :
    '/' ∉ name.toList ∧ ∀ c ∈ name.toList, c.toNat < 128 := by
  have hall : (builtinDirectories.all fun name =>
      !name.toList.contains '/' && name.toList.all fun c => c.toNat < 128) = true := by
    decide +kernel
  simpa using List.all_eq_true.1 hall name h

theorem minifiedEnding_ascii : ∀ c ∈ minifiedEnding.toList, c.toNat < 128 := by
  have hall : (minifiedEnding.toList.all fun c => c.toNat < 128) = true := by decide +kernel
  simpa using hall

namespace Filter

variable {fs : FileSystem} {s : Settings}

theorem new_of_builtin (hpatterns : s.ignorePatterns = []) (hdeps : s.includeDeps = false) :
    Filter.new fs s = .ok ⟨builtinPatterns, rulesOf fs s⟩ := by
  unfold Filter.new
  rw [hpatterns, hdeps, if_neg Bool.false_ne_true, readGlob_builtin]
  simp [bind, Except.bind, pure, Except.pure]

/-- Without patterns of the user and rules of an ignore file, the filter leaves out what lies below
a directory that the built-in globs name, and minified scripts. -/
theorem ignores_iff {f : Filter} (hglobs : f.globs = builtinPatterns) (hrules : f.rules.rules = [])
    (path : String) (isDirectory : Bool) :
    f.ignores path isDirectory = true ↔ Buried path ∨ Minified path := by
  have hverdict : f.rules.verdict? path isDirectory = none := by
    rw [Rules.verdict?, hrules]
    rfl
  unfold ignores Buried Minified
  simp only [hverdict, hglobs, builtinPatterns, Option.getD_none, Bool.or_false, List.any_append,
    Bool.or_eq_true, List.any_map, List.any_eq_true, List.mem_singleton, exists_eq_left]
  refine or_congr (exists_congr fun name => and_congr_right fun hname => ?_)
    (Glob.admits_endingGlob (by decide) minifiedEnding_ascii)
  obtain ⟨hslash, hascii⟩ := builtinDirectories_plain hname
  exact Glob.admits_directoryGlob hslash hascii

end Filter

end Ignore

end GlyphFold
