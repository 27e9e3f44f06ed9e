import GlyphFold.Proofs.TextOccurrences

/-!
# Whole words

A source with a word-like end folds in flat text at a word boundary there. Which characters are
word-like and which the boundary takes for word characters are two questions. They have the same
answer for letters, but not for numbers such as `²` and `½`, which are word-like only. So a region
is a whole word unless such a character is at its end or next to it.

1. `isWordLikeOnly`, `isWord_eq_isWordLike`: where the two answers differ, which is not in ASCII
2. `WholeEnd`, `FencedEnd`, `Mixed`: an end of a source and the character next to it
3. `FencedEnd.wholeEnd_iff`: a boundary keeps word-like characters apart, other than mixed ones
4. `resolveText_wholeWord_iff`: which regions of flat text are whole words
-/

namespace GlyphFold

open Text (byteSize isWord isWordLike)

/-! ## Two notions of a word -/

/-- The character ties a source to a word boundary, but makes no word: a number such as `½`. -/
def isWordLikeOnly (c : Char) : Bool := isWordLike c && !isWord c

theorem isWord_eq_isWordLike {c : Char} (h : c.toNat < 0x80) : isWord c = isWordLike c := by
  have hranges : ∀ n < 0x80, Text.covers Text.wordRanges n =
      (Text.covers Text.alphanumericRanges n || n == '_'.toNat) := by decide
  have hunderscore : (c.toNat == '_'.toNat) = (c == '_') := by
    rw [Bool.eq_iff_iff, beq_iff_eq, beq_iff_eq]
    exact Char.toNat_inj
  unfold isWord isWordLike Text.isAlphanumeric
  rw [hranges c.toNat h, hunderscore]

theorem any_of_any_isWordLikeOnly {c : Option Char} (h : c.any isWordLikeOnly = true) :
    c.any isWordLike = true ∧ c.any isWord = false := by
  obtain ⟨x, rfl, hx⟩ := (Option.any_eq_true ..).1 h
  obtain ⟨hlike, hword⟩ := Bool.and_eq_true_iff.1 hx
  exact ⟨hlike, Bool.not_eq_eq_eq_not.1 hword⟩

/-! ## Ends -/

/-- The end `c` of a source is that of a whole word: if it is word-like, `d` next to it is not. -/
def WholeEnd (c d : Option Char) : Prop := c.any isWordLike = true → d.any isWordLike = false

/-- If the end `c` is word-like, exactly one of it and `d` next to it is a word character. -/
def FencedEnd (c d : Option Char) : Prop :=
  c.any isWordLike = true → (c.any isWord != d.any isWord) = true

/-- Two word-like characters, of which exactly one is a word character. -/
def Mixed (c d : Option Char) : Prop :=
  c.any isWordLike = true ∧ d.any isWordLike = true ∧ (c.any isWord != d.any isWord) = true

theorem not_mixed_of_forall {c d : Option Char}
    (hc : ∀ x, c = some x → isWordLike x = true → isWord x = true)
    (hd : ∀ x, d = some x → isWordLike x = true → isWord x = true) : ¬ Mixed c d := by
  rintro ⟨hlike, hlike', hdiffer⟩
  obtain ⟨x, rfl, hx⟩ := (Option.any_eq_true ..).1 hlike
  obtain ⟨y, rfl, hy⟩ := (Option.any_eq_true ..).1 hlike'
  rw [Option.any_some, Option.any_some, hc x rfl hx, hd y rfl hy] at hdiffer
  cases hdiffer

namespace FencedEnd

variable {c d : Option Char} (h : FencedEnd c d)

include h

theorem wholeEnd_iff : WholeEnd c d ↔ ¬ Mixed c d := by
  constructor
  · rintro hwhole ⟨hlike, hnext, -⟩
    rw [hwhole hlike] at hnext
    cases hnext
  · intro hmixed hlike
    by_contra hnext
    exact hmixed ⟨hlike, Bool.not_eq_false _ ▸ hnext, h hlike⟩

/-- Next to an end that is word-like only there is a word character. -/
theorem any_isWord (hc : c.any isWordLikeOnly = true) : d.any isWord = true := by
  obtain ⟨hlike, hword⟩ := any_of_any_isWordLikeOnly hc
  have hdiffer := h hlike
  rwa [hword, Bool.false_bne] at hdiffer

end FencedEnd

namespace Fenced

variable {before own after : List Char} (hown : own ≠ []) (h : Fenced before own after)

include hown h

theorem fencedEnd_first : FencedEnd own.head? before.getLast? := by
  intro hlike
  have hboundary := h.starts hlike
  rw [boundaryBetween, List.head?_append_of_ne_nil own hown] at hboundary
  rwa [bne_comm]

theorem fencedEnd_last : FencedEnd own.getLast? after.head? := by
  intro hlike
  have hboundary := h.ends hlike
  rw [boundaryBetween, List.getLast?_append_of_ne_nil before hown] at hboundary
  exact hboundary

end Fenced

/-! ## Text mode -/

/-- Between `before` and `after` the text `own` is a whole word. -/
structure WholeWord (before own after : List Char) : Prop where
  first : WholeEnd own.head? before.getLast?
  last : WholeEnd own.getLast? after.head?

namespace Resolver

/-- **Which regions are whole words.** Each region of flat text covers a source of the table. It is
a whole word exactly if at neither end two word-like characters meet of which one is a word
character and the other is not; so in a text whose word-like characters are word characters all
regions are whole words. A source whose first character is word-like only folds just where a word
character is before it, and one whose last character is so just where one is behind it. -/
theorem resolveText_wholeWord_iff (engine : Engine) (edits : List Table.Edit) (ev : Evaluator)
    {r : Resolver} (hr : new engine (Table.empty.run edits) ev = .ok r) {text : String} {f : Region}
    (hf : f ∈ r.resolveText text) :
    ∃ before m after, text.toList = before ++ m.source.toList ++ after ∧
      f = .token ⟨byteSize before, byteSize before + byteSize m.source.toList⟩ m.glyph ∧
      (Table.empty.run edits).find? m.source = some m ∧
      (WholeWord before m.source.toList after ↔
        ¬ Mixed m.source.toList.head? before.getLast? ∧
          ¬ Mixed m.source.toList.getLast? after.head?) ∧
      ((∀ c ∈ text.toList, isWordLike c = true → isWord c = true) →
        WholeWord before m.source.toList after) ∧
      (m.source.toList.head?.any isWordLikeOnly = true → before.getLast?.any isWord = true) ∧
      (m.source.toList.getLast?.any isWordLikeOnly = true → after.head?.any isWord = true) := by
  have ht := Table.consistent_run edits
  obtain ⟨m, before, after, hcs, hm, hregion⟩ := occurs_of_mem_resolveText ht hr text hf
  have hfirst := hm.fenced.fencedEnd_first (ht.source_ne_nil hm.found)
  have hlast := hm.fenced.fencedEnd_last (ht.source_ne_nil hm.found)
  have hwhole : WholeWord before m.source.toList after ↔
      ¬ Mixed m.source.toList.head? before.getLast? ∧
        ¬ Mixed m.source.toList.getLast? after.head? := by
    rw [← hfirst.wholeEnd_iff, ← hlast.wholeEnd_iff]
    exact ⟨fun h => ⟨h.first, h.last⟩, fun h => ⟨h.1, h.2⟩⟩
  refine ⟨before, m, after, hcs, hregion, hm.found, hwhole, fun hwords => hwhole.2 ?_,
    hfirst.any_isWord, hlast.any_isWord⟩
  simp only [hcs, List.forall_mem_append] at hwords
  obtain ⟨⟨hbefore, hown⟩, hafter⟩ := hwords
  exact
    ⟨not_mixed_of_forall (fun c hc => hown c (List.mem_of_head? hc))
        fun c hc => hbefore c (List.mem_of_getLast? hc),
      not_mixed_of_forall (fun c hc => hown c (List.mem_of_getLast? hc))
        fun c hc => hafter c (List.mem_of_head? hc)⟩

def numberEdits : List Table.Edit :=
  [.upsert ⟨"½", "h", "numbers", .always⟩, .upsert ⟨"lambda", "λ", "keywords", .always⟩]

/-- The two sources stand in the pattern by their lengths. -/
theorem eq_of_new_numberEdits {r : Resolver}
    (h : new .willing (Table.empty.run numberEdits) .builtin = .ok r) :
    r = ⟨Table.empty.run numberEdits, .builtin, .ofSources ["lambda", "½"]⟩ := by
  obtain ⟨-, -, rfl⟩ := new_eq_ok_iff.1 h
  have hpattern : Pattern.ofTable (Table.empty.run numberEdits) = .ofSources ["lambda", "½"] :=
    Pattern.ofTable_eq_ofSources (by decide +kernel) (by decide +kernel)
  rw [hpattern]

/-- A fraction folds between letters, and a keyword behind a raised number. -/
theorem resolveText_numbers {r : Resolver}
    (h : new .willing (Table.empty.run numberEdits) .builtin = .ok r) :
    r.resolveText "a½b" = [.token ⟨1, 3⟩ "h"] ∧ r.resolveText "²lambda" = [.token ⟨2, 8⟩ "λ"] := by
  obtain rfl := eq_of_new_numberEdits h
  exact ⟨by decide +kernel, by decide +kernel⟩

/-- Neither of these regions is a whole word. -/
theorem not_forall_wholeWord :
    ¬ ∀ (edits : List Table.Edit) (ev : Evaluator) (r : Resolver),
        new .willing (Table.empty.run edits) ev = .ok r → ∀ (text : String),
          ∀ f ∈ r.resolveText text, ∀ before own after : List Char,
            text.toList = before ++ own ++ after → f.start = byteSize before →
              f.stop = byteSize (before ++ own) → WholeWord before own after := by
  intro h
  obtain ⟨r, hr⟩ : ∃ r, new .willing (Table.empty.run numberEdits) .builtin = .ok r := ⟨_, rfl⟩
  obtain ⟨hfraction, -⟩ := resolveText_numbers hr
  have hwhole := h numberEdits .builtin r hr "a½b" (.token ⟨1, 3⟩ "h")
    (by rw [hfraction]; exact List.mem_singleton_self _) ['a'] ['½'] ['b'] rfl rfl rfl
  have hletter := hwhole.first (by decide +kernel)
  exact absurd hletter (by decide +kernel)

/-- The keyword that is part of a longer name does not fold, and the other one is a whole word. -/
theorem resolveText_wholeWord_keyword :
    ∃ r, new .willing (Table.empty.run numberEdits) .builtin = .ok r ∧
      r.resolveText "notlambda = lambda" = [.token ⟨12, 18⟩ "λ"] ∧
      ∃ (before after : List Char) (m : Mapping),
        "notlambda = lambda".toList = before ++ m.source.toList ++ after ∧
          byteSize before = 12 ∧ WholeWord before m.source.toList after := by
  obtain ⟨r, hr⟩ : ∃ r, new .willing (Table.empty.run numberEdits) .builtin = .ok r := ⟨_, rfl⟩
  have hregions : r.resolveText "notlambda = lambda" = [.token ⟨12, 18⟩ "λ"] := by
    obtain rfl := eq_of_new_numberEdits hr
    decide +kernel
  have hascii : ("notlambda = lambda".toList.all fun c => c.toNat < 0x80) = true := by decide
  obtain ⟨before, m, after, hcs, hf, -, -, hwhole, -⟩ :=
    resolveText_wholeWord_iff .willing numberEdits .builtin hr
      (by rw [hregions]; exact List.mem_singleton_self _)
  refine ⟨r, hr, hregions, before, after, m, hcs, ?_, hwhole fun c hc hlike => ?_⟩
  · have hstart := congrArg Region.start hf
    rw [Region.start_token (Nat.le_add_right _ _)] at hstart
    exact hstart.symm
  · rw [isWord_eq_isWordLike (of_decide_eq_true (List.all_eq_true.1 hascii c hc)), hlike]

end Resolver

end GlyphFold
