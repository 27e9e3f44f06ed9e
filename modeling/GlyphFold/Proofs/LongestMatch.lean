import GlyphFold.Proofs.QuotedText
import GlyphFold.Proofs.SortedLists
import GlyphFold.Proofs.TableInvariant
import GlyphFold.Resolver

/-!
# The longest source wins

Text mode is defined by a pattern. `Munch` describes what it finds without one: a walk over the text
that at each place folds the longest source that is admissible there.

1. `Munch.unique`: there is only one such walk.
2. An alternative matches exactly where its source stands between the word boundaries that its ends
   ask for (`rest?_atomsOf`).
3. The first alternative that matches is the longest admissible source, whatever the order among
   those of one length (`admissible_of_firstRest?`, `not_admissible_of_firstRest?`).
4. `munch_matchesBehind`: the search is the walk.
5. `resolveText_eq_munch`: text mode gives the regions of the walk that no quoted span holds.
-/

namespace GlyphFold

open Text (byteSize byteSize_append byteSize_cons byteSize_nil isWordLike wordBoundary)

/-! ## The reference walk -/

/-- A word boundary lies between two parts of a text. -/
def boundaryBetween (left right : List Char) : Bool := wordBoundary left.getLast? right.head?

/-- The text has a word boundary at each end of `own` that is word-like. -/
structure Fenced (before own after : List Char) : Prop where
  starts : own.head?.any isWordLike = true → boundaryBetween before (own ++ after) = true
  ends : own.getLast?.any isWordLike = true → boundaryBetween (before ++ own) after = true

/-- The source of an unconditional mapping may fold between `before` and `after`. -/
structure Admissible (t : Table) (before : List Char) (m : Mapping) (after : List Char) : Prop where
  found : t.find? m.source = some m
  unconditional : m.condition = .always
  fenced : Fenced before m.source.toList after

/-- The walk over the text `cs` behind `before`, with the regions that it emits: where sources are
admissible it folds the longest and goes on at its end, elsewhere it passes one character. -/
inductive Munch (t : Table) : (before cs : List Char) → List Region → Prop
  | done (before : List Char) : Munch t before [] []
  | fold {before cs after : List Char} {m : Mapping} {out : List Region}
      (hcs : cs = m.source.toList ++ after) (hm : Admissible t before m after)
      (longest : ∀ m' after', cs = m'.source.toList ++ after' → Admissible t before m' after' →
        byteSize m'.source.toList ≤ byteSize m.source.toList)
      (go_on : Munch t (before ++ m.source.toList) after out) :
      Munch t before cs
        (.token ⟨byteSize before, byteSize before + byteSize m.source.toList⟩ m.glyph :: out)
  | pass {before after : List Char} {c : Char} {out : List Region}
      (hnone : ∀ m after', c :: after = m.source.toList ++ after' → ¬ Admissible t before m after')
      (go_on : Munch t (before ++ [c]) after out) : Munch t before (c :: after) out

/-! ## The walk is unique -/

section Unique

variable {t : Table} (ht : t.Consistent)

include ht

omit ht in
/-- Admissible sources of one length that stand at one place are the same. -/
theorem Munch.same_fold {before after after' : List Char} {m m' : Mapping}
    (hm : Admissible t before m after) (hm' : Admissible t before m' after')
    (hcs : m.source.toList ++ after = m'.source.toList ++ after')
    (hle : byteSize m'.source.toList ≤ byteSize m.source.toList)
    (hge : byteSize m.source.toList ≤ byteSize m'.source.toList) : m = m' ∧ after = after' := by
  obtain ⟨hsource, hafter⟩ := Text.append_inj_of_byteSize hcs (Nat.le_antisymm hge hle)
  have hfound := hm.found
  rw [String.toList_inj.1 hsource, hm'.found] at hfound
  exact ⟨(Option.some.inj hfound).symm, hafter⟩

/-- **The walk is unique.** At each place the longest admissible source leaves no choice. -/
theorem Munch.unique {before cs : List Char} {out out' : List Region}
    (h : Munch t before cs out) (h' : Munch t before cs out') : out = out' := by
  induction h generalizing out' with
  | done before =>
    cases h' with
    | done => rfl
    | fold hcs hm _ _ =>
      exact absurd (List.append_eq_nil_iff.1 hcs.symm).1 (ht.source_ne_nil hm.found)
  | @fold before cs after m out hcs hm longest _ ih =>
    cases h' with
    | done => exact absurd (List.append_eq_nil_iff.1 hcs.symm).1 (ht.source_ne_nil hm.found)
    | fold hcs' hm' longest' go_on' =>
      obtain ⟨rfl, rfl⟩ := Munch.same_fold hm hm' (hcs.symm.trans hcs')
        (longest _ _ hcs' hm') (longest' _ _ hcs hm)
      rw [ih go_on']
    | pass hnone _ => exact absurd hm (hnone _ _ hcs)
  | pass hnone _ ih =>
    cases h' with
    | fold hcs hm _ _ => exact absurd hm (hnone _ _ hcs)
    | pass _ go_on' => exact ih go_on'

end Unique

/-! ## Alternatives -/

namespace Pattern

theorem rest?_fence (c : Option Char) (atoms : List Atom) (previous : Option Char)
    (cs rest : List Char) :
    rest? (fence c ++ atoms) previous cs = some rest ↔
      (c.any isWordLike = true → wordBoundary previous cs.head? = true) ∧
        rest? atoms previous cs = some rest := by
  unfold fence
  by_cases hc : c.any isWordLike = true
  · rw [if_pos hc]
    show (if wordBoundary previous cs.head? = true then rest? atoms previous cs else none) = _ ↔ _
    by_cases hb : wordBoundary previous cs.head? = true
    · rw [if_pos hb]
      exact ⟨fun h => ⟨fun _ => hb, h⟩, And.right⟩
    · rw [if_neg hb]
      exact ⟨nofun, fun h => absurd (h.1 hc) hb⟩
  · rw [if_neg hc]
    exact ⟨fun h => ⟨fun hc' => absurd hc' hc, h⟩, And.right⟩

theorem rest?_chars (own : List Char) (atoms : List Atom) (previous : Option Char)
    (cs rest : List Char) :
    rest? (own.map .char ++ atoms) previous cs = some rest ↔
      ∃ after, cs = own ++ after ∧ rest? atoms (own.getLast?.or previous) after = some rest := by
  induction own generalizing previous cs with
  | nil => simp
  | cons c own ih =>
    have hlast : (c :: own).getLast?.or previous = own.getLast?.or (some c) := by
      rw [List.getLast?_cons]
      cases own.getLast? <;> rfl
    rw [hlast]
    cases cs with
    | nil => exact ⟨nofun, fun ⟨_, h, _⟩ => nomatch h⟩
    | cons d cs =>
      show (if c = d then rest? (own.map .char ++ atoms) (some c) cs else none) = _ ↔ _
      by_cases hcd : c = d
      · rw [if_pos hcd, ih, hcd]
        simp
      · rw [if_neg hcd]
        exact ⟨nofun, fun ⟨_, h, _⟩ => absurd (List.cons.inj h).1.symm hcd⟩

/-- The alternative of a source matches where the source stands, fenced. -/
theorem rest?_atomsOf (source : String) (before cs rest : List Char) :
    rest? (atomsOf source) before.getLast? cs = some rest ↔
      cs = source.toList ++ rest ∧ Fenced before source.toList rest := by
  unfold atomsOf
  rw [List.append_assoc, rest?_fence, rest?_chars]
  constructor
  · rintro ⟨hstarts, after, rfl, hends⟩
    rw [← List.append_nil (fence _), rest?_fence, ← List.getLast?_append] at hends
    obtain ⟨hends, hrest⟩ := hends
    obtain rfl : after = rest := Option.some.inj hrest
    exact ⟨rfl, hstarts, hends⟩
  · rintro ⟨rfl, hstarts, hends⟩
    refine ⟨hstarts, rest, rfl, ?_⟩
    rw [← List.append_nil (fence _), rest?_fence, ← List.getLast?_append]
    exact ⟨hends, rfl⟩

/-! ## The first alternative that matches -/

/-- The sources are those of the unconditional mappings, longer ones before shorter ones. -/
structure LongestFirst (t : Table) (sources : List String) : Prop where
  mem_iff : ∀ s, s ∈ sources ↔ ∃ m, t.find? s = some m ∧ m.condition = .always
  sorted : sources.Pairwise fun s s' => byteSize s'.toList ≤ byteSize s.toList

theorem before_iff {a b : String} :
    before a b = true ↔ RanksBefore (a, byteSize a.toList) (b, byteSize b.toList) := by
  simp [before, RanksBefore]

theorem before_trans (a b c : String) (hab : before a b = true) (hbc : before b c = true) :
    before a c = true :=
  before_iff.2 ((before_iff.1 hab).trans (before_iff.1 hbc))

theorem before_total (a b : String) : (before a b || before b a) = true := by
  rw [Bool.or_eq_true, before_iff, before_iff]
  exact RanksBefore.total _ _

theorem before_antisymm {a b : String} (hab : before a b = true) (hba : before b a = true) :
    a = b :=
  congrArg Prod.fst ((before_iff.1 hab).antisymm (before_iff.1 hba))

/-- The order of the alternatives is that of their sources alone: it leaves no two of them open. -/
theorem ofTable_eq_ofSources {t : Table} {sources : List String}
    (hperm : sources.Perm (unconditional t))
    (hsorted : sources.Pairwise fun a b => before a b = true) : ofTable t = ofSources sources := by
  have hperm' := (List.mergeSort_perm (unconditional t) before).trans hperm.symm
  unfold ofTable
  rw [hperm'.eq_of_pairwise (fun a b _ _ hab hba => before_antisymm hab hba)
    (List.pairwise_mergeSort before_trans before_total _) hsorted]

section Choice

variable {t : Table} (ht : t.Consistent)

include ht

theorem mem_unconditional {s : String} :
    s ∈ unconditional t ↔ ∃ m, t.find? s = some m ∧ m.condition = .always := by
  unfold unconditional
  rw [List.mem_map]
  constructor
  · rintro ⟨m, hm, rfl⟩
    obtain ⟨hm, hc⟩ := List.mem_filter.1 hm
    exact ⟨m, (Table.find?_eq_some_iff ht).2 ⟨hm, rfl⟩, of_decide_eq_true hc⟩
  · rintro ⟨m, hm, hc⟩
    obtain ⟨hm, hs⟩ := (Table.find?_eq_some_iff ht).1 hm
    exact ⟨m, List.mem_filter.2 ⟨hm, decide_eq_true hc⟩, hs⟩

theorem longestFirst_of_perm {sources : List String} (hperm : sources.Perm (unconditional t))
    (hsorted : sources.Pairwise fun s s' => byteSize s'.toList ≤ byteSize s.toList) :
    LongestFirst t sources :=
  ⟨fun _ => hperm.mem_iff.trans (mem_unconditional ht), hsorted⟩

theorem longestFirst_mergeSort : LongestFirst t ((unconditional t).mergeSort before) := by
  refine longestFirst_of_perm ht (List.mergeSort_perm ..) ?_
  refine (List.pairwise_mergeSort before_trans before_total _).imp fun {s s'} hss => ?_
  rcases before_iff.1 hss with hlt | ⟨heq, -⟩ <;> omega

variable {sources : List String} (h : LongestFirst t sources) {before cs : List Char}

include h

/-- The first alternative that matches is that of the longest admissible source: the sources before
it do not match, and those behind it are no longer. -/
theorem admissible_of_firstRest? {rest : List Char}
    (hrest : (ofSources sources).firstRest? before.getLast? cs = some rest) :
    ∃ m, cs = m.source.toList ++ rest ∧ Admissible t before m rest ∧
      ∀ m' after', cs = m'.source.toList ++ after' → Admissible t before m' after' →
        byteSize m'.source.toList ≤ byteSize m.source.toList := by
  unfold firstRest? ofSources at hrest
  rw [List.findSome?_map] at hrest
  obtain ⟨earlier, s, later, hsplit, hs, hearlier⟩ := List.findSome?_eq_some_iff.1 hrest
  obtain ⟨hcs, hfenced⟩ := (rest?_atomsOf s before cs rest).1 hs
  obtain ⟨m, hm, hc⟩ := (h.mem_iff s).1 (by rw [hsplit]; simp)
  obtain rfl : m.source = s := ht.source_of_find? s m hm
  refine ⟨m, hcs, ⟨hm, hc, hfenced⟩, fun m' after' hcs' hm' => ?_⟩
  have hmem : m'.source ∈ earlier ++ m.source :: later := by
    rw [← hsplit]
    exact (h.mem_iff _).2 ⟨m', hm'.found, hm'.unconditional⟩
  rcases List.mem_append.1 hmem with hmem | hmem
  · have hsome := (rest?_atomsOf m'.source before cs after').2 ⟨hcs', hm'.fenced⟩
    exact nomatch (hearlier _ hmem).symm.trans hsome
  · rcases List.mem_cons.1 hmem with hmem | hmem
    · exact Nat.le_of_eq (by rw [hmem])
    · have hsorted := h.sorted
      rw [hsplit] at hsorted
      exact List.rel_of_pairwise_cons (List.pairwise_append.1 hsorted).2.1 hmem

omit ht in
theorem not_admissible_of_firstRest?
    (hrest : (ofSources sources).firstRest? before.getLast? cs = none) (m : Mapping)
    (after : List Char) (hcs : cs = m.source.toList ++ after) : ¬ Admissible t before m after := by
  intro hm
  unfold firstRest? ofSources at hrest
  rw [List.findSome?_map, List.findSome?_eq_none_iff] at hrest
  have hnone := hrest m.source ((h.mem_iff _).2 ⟨m, hm.found, hm.unconditional⟩)
  have hsome := (rest?_atomsOf m.source before cs after).2 ⟨hcs, hm.fenced⟩
  exact nomatch hnone.symm.trans hsome

end Choice

/-! ## The search is a walk -/

/-- The characters of a match are passed over. -/
theorem matchesFrom_append (p : Pattern) (own after : List Char) (previous : Option Char)
    (offset : Nat) :
    p.matchesFrom previous offset own.length (own ++ after) =
      p.matchesFrom (own.getLast?.or previous) (offset + byteSize own) 0 after := by
  induction own generalizing previous offset with
  | nil => simp
  | cons c own ih =>
    rw [List.cons_append, List.length_cons, matchesFrom, ih, byteSize_cons, Nat.add_assoc,
      List.getLast?_cons]
    cases own.getLast? <;> rfl

/-- A search at a place where the first alternative that matches leaves `rest` gives the text before
it, and goes on with `rest`. -/
theorem matchesFrom_of_firstRest? {p : Pattern} {previous : Option Char} {own rest : List Char}
    (hown : own ≠ []) (h : p.firstRest? previous (own ++ rest) = some rest) (offset : Nat) :
    p.matchesFrom previous offset 0 (own ++ rest) =
      ⟨⟨offset, offset + byteSize own⟩, String.ofList own⟩ ::
        p.matchesFrom (own.getLast?.or previous) (offset + byteSize own) 0 rest := by
  have htake : (own ++ rest).take ((own ++ rest).length - rest.length) = own := by
    rw [List.length_append, Nat.add_sub_cancel, List.take_left]
  have hskip := matchesFrom_append p own rest previous offset
  obtain ⟨c, own, rfl⟩ := List.exists_cons_of_ne_nil hown
  rw [List.cons_append] at h htake ⊢
  rw [matchesFrom, h]
  simp only [htake]
  rw [← hskip, List.cons_append, List.length_cons, matchesFrom, Nat.add_sub_cancel]

/-- The matches in the text `cs` behind `before`. -/
def matchesBehind (p : Pattern) (before cs : List Char) : List Match :=
  p.matchesFrom before.getLast? (byteSize before) 0 cs

theorem matchesBehind_of_none {p : Pattern} {before : List Char} {c : Char} {cs : List Char}
    (h : p.firstRest? before.getLast? (c :: cs) = none) :
    p.matchesBehind before (c :: cs) = p.matchesBehind (before ++ [c]) cs := by
  unfold matchesBehind
  rw [matchesFrom, h, List.getLast?_concat, byteSize_append, byteSize_cons, byteSize_nil,
    Nat.add_zero]

theorem matchesBehind_of_some {p : Pattern} {before own rest : List Char} (hown : own ≠ [])
    (h : p.firstRest? before.getLast? (own ++ rest) = some rest) :
    p.matchesBehind before (own ++ rest) =
      ⟨⟨byteSize before, byteSize before + byteSize own⟩, String.ofList own⟩ ::
        p.matchesBehind (before ++ own) rest := by
  unfold matchesBehind
  rw [matchesFrom_of_firstRest? hown h, List.getLast?_append, byteSize_append]

theorem resolveMatch_source {t : Table} {m : Mapping} (hm : t.find? m.source = some m)
    (range : Span) :
    Resolver.resolveMatch t ⟨range, String.ofList m.source.toList⟩ =
      some (.token range m.glyph) := by
  unfold Resolver.resolveMatch
  rw [String.ofList_toList, hm]
  rfl

section Search

variable {t : Table} (ht : t.Consistent) {sources : List String} (h : LongestFirst t sources)

include ht h

/-- What the search does at a place is what the walk does there. -/
theorem matchesBehind_cases (before : List Char) (c : Char) (cs : List Char) :
    ((∀ m after, c :: cs = m.source.toList ++ after → ¬ Admissible t before m after) ∧
      (ofSources sources).matchesBehind before (c :: cs) =
        (ofSources sources).matchesBehind (before ++ [c]) cs) ∨
    ∃ m rest, c :: cs = m.source.toList ++ rest ∧ rest.length < (c :: cs).length ∧
      Admissible t before m rest ∧
      (∀ m' after, c :: cs = m'.source.toList ++ after → Admissible t before m' after →
        byteSize m'.source.toList ≤ byteSize m.source.toList) ∧
      (ofSources sources).matchesBehind before (c :: cs) =
        ⟨⟨byteSize before, byteSize before + byteSize m.source.toList⟩,
            String.ofList m.source.toList⟩ ::
          (ofSources sources).matchesBehind (before ++ m.source.toList) rest := by
  cases hfirst : (ofSources sources).firstRest? before.getLast? (c :: cs) with
  | none => exact .inl ⟨not_admissible_of_firstRest? h hfirst, matchesBehind_of_none hfirst⟩
  | some rest =>
    obtain ⟨m, hcs, hm, longest⟩ := admissible_of_firstRest? ht h hfirst
    have hne := ht.source_ne_nil hm.found
    refine .inr ⟨m, rest, hcs, ?_, hm, longest, ?_⟩
    · have := List.length_pos_iff.2 hne
      rw [hcs, List.length_append]
      omega
    · rw [hcs] at hfirst ⊢
      exact matchesBehind_of_some hne hfirst

/-- **The search walks.** The matches of a pattern, each looked up in the table, are the regions of
the walk. -/
theorem munch_matchesBehind (before cs : List Char) :
    Munch t before cs
      (((ofSources sources).matchesBehind before cs).filterMap (Resolver.resolveMatch t)) := by
  induction hn : cs.length using Nat.strongRecOn generalizing before cs with
  | ind n ih =>
    subst hn
    cases cs with
    | nil => exact .done before
    | cons c cs =>
      obtain ⟨hnone, hgo⟩ | ⟨m, rest, hcs, hlt, hm, longest, hgo⟩ :=
        matchesBehind_cases ht h before c cs
      · rw [hgo]
        exact .pass hnone (ih _ (Nat.lt_succ_self _) _ _ rfl)
      · rw [hgo, List.filterMap_cons_some (resolveMatch_source hm.found _)]
        exact .fold hcs hm longest (ih _ hlt _ _ rfl)

/-- Every match is an unconditional source of the table. -/
theorem find?_of_mem_matchesBehind {before cs : List Char} {x : Match}
    (hx : x ∈ (ofSources sources).matchesBehind before cs) :
    x.range.start ≤ x.range.stop ∧ ∃ m, t.find? x.text = some m ∧ m.condition = .always := by
  induction hn : cs.length using Nat.strongRecOn generalizing before cs with
  | ind n ih =>
    subst hn
    cases cs with
    | nil => cases hx
    | cons c cs =>
      obtain ⟨-, hgo⟩ | ⟨m, rest, -, hlt, hm, -, hgo⟩ := matchesBehind_cases ht h before c cs
      · rw [hgo] at hx
        exact ih _ (Nat.lt_succ_self _) hx rfl
      · rw [hgo] at hx
        rcases List.mem_cons.1 hx with rfl | hx
        · refine ⟨Nat.le_add_right _ _, m, ?_, hm.unconditional⟩
          rw [String.ofList_toList]
          exact hm.found
        · exact ih _ hlt hx rfl

end Search

end Pattern

/-! ## Text mode -/

namespace Resolver

theorem new_eq_ok {engine : Engine} {t : Table} {ev : Evaluator} {r : Resolver}
    (h : new engine t ev = .ok r) : r.table = t ∧ r.pattern = .ofTable t := by
  obtain ⟨-, -, rfl⟩ := new_eq_ok_iff.1 h
  exact ⟨rfl, rfl⟩

theorem resolveMatch_range {t : Table} {x : Match} {f : Region}
    (hx : x.range.start ≤ x.range.stop) (h : resolveMatch t x = some f) : f.range = x.range := by
  obtain ⟨m, -, rfl⟩ := Option.map_eq_some_iff.1 h
  exact Region.range_token hx m.glyph

/-- Matches may be looked up before those inside quotes are dropped. -/
theorem filterMap_resolveMatch_filter {t : Table} (keep : Span → Bool) {matched : List Match}
    (h : ∀ x ∈ matched, x.range.start ≤ x.range.stop) :
    (matched.filter fun x => keep x.range).filterMap (resolveMatch t) =
      (matched.filterMap (resolveMatch t)).filter fun f => keep f.range := by
  rw [List.filterMap_filter, List.filter_filterMap]
  refine List.filterMap_congr fun x hx => ?_
  cases hf : resolveMatch t x with
  | none => simp
  | some f =>
    rw [Option.filter_some, resolveMatch_range (h x hx) hf]

theorem resolveText_eq_filter (r : Resolver) (ht : r.table.Consistent) {sources : List String}
    (h : Pattern.LongestFirst r.table sources) (hp : r.pattern = .ofSources sources)
    (text : String) :
    r.resolveText text =
      (((Pattern.ofSources sources).matchesBehind [] text.toList).filterMap
        (resolveMatch r.table)).filter
          fun f => !(quotedSpans text).any (·.holds f.range) := by
  have hrange : ∀ x ∈ (Pattern.ofSources sources).matchesBehind [] text.toList,
      x.range.start ≤ x.range.stop :=
    fun x hx => (Pattern.find?_of_mem_matchesBehind ht h hx).1
  rw [← filterMap_resolveMatch_filter (fun s => !(quotedSpans text).any (·.holds s)) hrange]
  unfold resolveText
  simp only [insideQuotes_quotedSpans, hp]
  rfl

/-- **Text mode is maximal munch.** The regions of flat text are those of the walk over the text
that no quoted span holds. Every match of the pattern is an unconditional source of the table, and
another order of the alternatives, as long as longer ones come first, gives the same regions. -/
theorem resolveText_eq_munch (engine : Engine) (edits : List Table.Edit) (ev : Evaluator)
    {r : Resolver} (hr : Resolver.new engine (Table.empty.run edits) ev = .ok r) (text : String) :
    (∃ folds, (∀ out, Munch (Table.empty.run edits) [] text.toList out ↔ out = folds) ∧
      r.resolveText text = folds.filter fun f => !(quotedSpans text).any (·.holds f.range)) ∧
    (∀ x ∈ r.pattern.matchesIn text,
      ∃ m, (Table.empty.run edits).find? x.text = some m ∧ m.condition = .always) ∧
    ∀ sources : List String, sources.Perm (Pattern.unconditional (Table.empty.run edits)) →
      (sources.Pairwise fun s s' => byteSize s'.toList ≤ byteSize s.toList) →
      { r with pattern := .ofSources sources }.resolveText text = r.resolveText text := by
  have ht : (Table.empty.run edits).Consistent := Table.consistent_run edits
  obtain ⟨htable, hpattern⟩ := new_eq_ok hr
  rw [← htable] at ht hpattern ⊢
  have hsorted := Pattern.longestFirst_mergeSort ht
  have hwalk := fun {sources : List String} (h : Pattern.LongestFirst r.table sources) =>
    Pattern.munch_matchesBehind ht h [] text.toList
  refine ⟨⟨_, fun out => ⟨fun h => h.unique ht (hwalk hsorted), fun h => h ▸ hwalk hsorted⟩,
    resolveText_eq_filter r ht hsorted hpattern text⟩, ?_, fun sources hperm hlongest => ?_⟩
  · intro x hx
    rw [hpattern] at hx
    change x ∈ (Pattern.ofSources _).matchesBehind [] text.toList at hx
    exact (Pattern.find?_of_mem_matchesBehind ht hsorted hx).2
  · have h := Pattern.longestFirst_of_perm ht hperm hlongest
    rw [resolveText_eq_filter r ht hsorted hpattern,
      resolveText_eq_filter { r with pattern := .ofSources sources } ht h rfl,
      (hwalk h).unique ht (hwalk hsorted)]

/-- Mappings of sources that begin alike, one of them with a word boundary at its end, and one
mapping with a condition. -/
def comparisonEdits : List Table.Edit :=
  [.upsert ⟨"<", "‹", "operators", .always⟩, .upsert ⟨"<=", "≤", "operators", .always⟩,
    .upsert ⟨"<not", "≮", "operators", .always⟩, .upsert ⟨"=", "≡", "operators", .parentIsBinary⟩]

/-- The longest source folds where it may, the quoted one does not, and the one that a word goes on
behind leaves its place to a shorter one. -/
theorem resolveText_comparisons :
    ∃ r, Resolver.new .willing (Table.empty.run comparisonEdits) .builtin = .ok r ∧
      r.resolveText "é<=\"<\"=<notx" = [.token ⟨2, 4⟩ "≤", .token ⟨8, 9⟩ "‹"] := by
  refine ⟨_, rfl, ?_⟩
  have h := (resolveText_eq_munch .willing comparisonEdits .builtin rfl "é<=\"<\"=<notx").2.2
    ["<not", "<=", "<"] (by decide +kernel) (by decide +kernel)
  rw [← h]
  decide +kernel

end Resolver

end GlyphFold
