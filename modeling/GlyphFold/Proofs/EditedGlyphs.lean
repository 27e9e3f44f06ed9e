import GlyphFold.Proofs.CheckedWalks
import GlyphFold.Proofs.MatchingRules
import GlyphFold.Proofs.NestedRanges

/-!
# Edited glyphs

A mapping that gets another glyph, and perhaps another category, keeps its source and its condition.
No resolver finds anything else, or finds it elsewhere, because of that: the regions are the ones
before, and those that cover the source show the new glyph.

1. `Region.withGlyphOf`: the same region, with the glyph of a mapping if it covers the mapping's
   source
2. `exists_find?_upsert`, `sameConditions_upsert`: what the edit does to lookups
3. `collect_map`, `collectChecked_map`: walks in which leaves give images of what they gave
4. `slice?_of_mem_matchesFrom`: a match covers its own text
5. `resolve_upsert`, `resolveChecked_upsert`, `resolveText_upsert`: the regions after the edit
6. `new_upsert_glyph`: the two resolvers side by side
-/

namespace GlyphFold

open Text (byteSize byteSize_append slice?)

/-! ## Regions with another glyph -/

/-- The region in a text, showing the glyph of a mapping if it covers the mapping's source. Nothing
else about the region changes. -/
def Region.withGlyphOf (m : Mapping) (cs : List Char) (f : Region) : Region :=
  { f with
    placeholder := if slice? cs f.start f.stop = some m.source.toList then m.glyph
      else f.placeholder }

theorem Region.withGlyphOf_token {cs : List Char} {range : Span} {text : String}
    (htext : slice? cs range.start range.stop = some text.toList) (m : Mapping) (glyph : String) :
    (token range glyph).withGlyphOf m cs =
      token range (if text = m.source then m.glyph else glyph) := by
  obtain ⟨before, after, -, -, hstop⟩ := Text.slice?_eq_some_iff.1 htext
  have hle : range.start ≤ range.stop := by omega
  have hstart : (token range glyph).start = range.start := start_token hle glyph
  have hstop : (token range glyph).stop = range.stop := stop_token hle glyph
  have hcovers : slice? cs (token range glyph).start (token range glyph).stop =
      some m.source.toList ↔ text = m.source := by
    rw [hstart, hstop, htext, Option.some.injEq, String.toList_inj]
  unfold withGlyphOf
  simp only [hcovers]
  rfl

/-! ## Lookups after the edit -/

section Lookups

variable {t : Table} (ht : t.Consistent) {m old : Mapping} (hold : t.find? m.source = some old)
  {s : String}

include ht hold

/-- The edit changes what is found under its source, and nothing else. -/
theorem Table.find?_upsert_of_find? (s : String) :
    (t.upsert m).2.find? s = (t.find? s).map fun x => if s = m.source then m else x := by
  rw [find?_upsert ht (ne_blank_of_find? ht hold)]
  by_cases hs : s = m.source
  · subst hs
    simp [hold]
  · simp [hs]

theorem Table.find?_upsert_eq_none (hs : t.find? s = none) : (t.upsert m).2.find? s = none := by
  rw [find?_upsert_of_find? ht hold, hs, Option.map_none]

variable (hcondition : old.condition = m.condition)

include hcondition

/-- A source is found with the condition that it had, and with the new glyph if it is the edited
one. -/
theorem Table.exists_find?_upsert {x : Mapping} (hs : t.find? s = some x) :
    ∃ x', (t.upsert m).2.find? s = some x' ∧ x'.condition = x.condition ∧
      x'.glyph = if s = m.source then m.glyph else x.glyph := by
  rw [find?_upsert_of_find? ht hold, hs]
  refine ⟨_, rfl, ?_, ?_⟩
  · split
    · next he =>
      rw [he, hold] at hs
      rw [← hcondition, Option.some.inj hs]
    · rfl
  · split <;> rfl

theorem sameConditions_upsert : SameConditions t (t.upsert m).2 := by
  intro s
  cases hs : t.find? s with
  | none => rw [Table.find?_upsert_eq_none ht hold hs]
  | some x =>
    obtain ⟨x', hx', hcond, -⟩ := Table.exists_find?_upsert ht hold hcondition hs
    rw [hx', Option.map_some, Option.map_some, hcond]

end Lookups

/-! ## Walks -/

namespace TokenTree

variable (t : TokenTree) {α β : Type} (F : α → β) (id : NodeId)

theorem walk_map_all {find : Node → Option α} {find' : Node → Option β}
    (hfind : ∀ n, find' n = (find n).map F) :
    t.walk find' t.size ⟨[id], #[]⟩ =
      ⟨(t.walk find t.size ⟨[id], #[]⟩).stack, (t.walk find t.size ⟨[id], #[]⟩).found.map F⟩ := by
  have hdown : ∀ id c, True → c ∈ t.children id → True := fun _ _ _ _ => trivial
  have hwalk := walk_map F hdown (fun _ n _ _ _ => hfind n) t.size (w := ⟨[id], #[]⟩)
    fun _ _ => trivial
  simpa only [Array.map_empty] using hwalk

theorem collect_map {find : Node → Option α} {find' : Node → Option β}
    (hfind : ∀ n, find' n = (find n).map F) : t.collect find' id = (t.collect find id).map F := by
  unfold collect
  rw [walk_map_all t F id hfind, Array.toList_map]

omit t id in
theorem entry?_map (x : Except WalkFault (Option α)) :
    entry? (x.map (Option.map F)) = ( entry? x).map (Except.map F) := by
  rcases x with e | _ | x <;> rfl

omit t id in
theorem mapM_map_except (xs : List (Except WalkFault α)) :
    (xs.map (Except.map F)).mapM (fun x => x) = (xs.mapM fun x => x).map (List.map F) := by
  induction xs with
  | nil => rfl
  | cons x xs ih =>
    rw [List.map_cons, List.mapM_cons, List.mapM_cons, ih]
    cases x with
    | error e => rfl
    | ok a =>
      cases xs.mapM fun x => x with
      | error e => rfl
      | ok as => rfl

theorem collectChecked_map {find : Node → Except WalkFault (Option α)}
    {find' : Node → Except WalkFault (Option β)}
    (hfind : ∀ n, find' n = (find n).map (Option.map F)) :
    t.collectChecked find' id = (t.collectChecked find id).map (List.map F) := by
  have hentry : ∀ n, entry? (find' n) = ( entry? (find n)).map (Except.map F) := by
    intro n
    rw [hfind, entry?_map]
  unfold collectChecked
  -- The walks are the same turn by turn, faults included, so they stop for the same fault.
  rw [walk_map_all t (Except.map F) id hentry]
  simp only [Array.toList_map, mapM_map_except]
  split <;> rfl

end TokenTree

/-! ## Matches -/

theorem Text.slice?_take (before cs : List Char) (n : Nat) :
    slice? (before ++ cs) (byteSize before) (byteSize before + byteSize (cs.take n)) =
      some (cs.take n) := by
  refine Text.slice?_eq_some_iff.2 ⟨before, cs.drop n, ?_, rfl, rfl⟩
  rw [List.append_assoc, List.take_append_drop]

/-- A match covers its own text, wherever in a text the search has come to. -/
theorem Pattern.slice?_of_mem_matchesFrom (p : Pattern) {before cs : List Char}
    {previous : Option Char} {skip : Nat} {x : Match}
    (hx : x ∈ p.matchesFrom previous (byteSize before) skip cs) :
    slice? (before ++ cs) x.range.start x.range.stop = some x.text.toList := by
  induction cs generalizing before previous skip with
  | nil => cases skip <;> cases hx
  | cons c cs ih =>
    have hnext : byteSize (before ++ [c]) = byteSize before + c.utf8Size := by
      rw [byteSize_append]
      rfl
    rw [List.append_cons]
    cases skip with
    | succ skip =>
      rw [matchesFrom, ← hnext] at hx
      exact ih hx
    | zero =>
      rw [matchesFrom] at hx
      split at hx
      · next rest _ =>
        rcases List.mem_cons.1 hx with rfl | hx
        · rw [← List.append_cons, String.toList_ofList]
          exact Text.slice?_take before (c :: cs) _
        · rw [← hnext] at hx
          exact ih hx
      · rw [← hnext] at hx
        exact ih hx

/-! ## Resolvers -/

namespace Resolver

section Upsert

variable {r r' : Resolver} (ht : r.table.Consistent) {m old : Mapping}
  (hold : r.table.find? m.source = some old) (hcondition : old.condition = m.condition)
  (htable : r'.table = (r.table.upsert m).2) (hevaluator : r'.evaluator = r.evaluator)

include ht hold hcondition htable hevaluator

theorem resolveLeaf_upsert (tree : TokenTree) (g : Grammar) (n : Node) :
    r'.resolveLeaf tree g n =
      (r.resolveLeaf tree g n).map (·.withGlyphOf m tree.source.toList) := by
  unfold resolveLeaf candidate?
  cases htext : (tree.text? n).filter (· ≠ "") with
  | none => rfl
  | some text =>
    have hslice := TokenTree.slice?_of_text? (Option.filter_eq_some_iff.1 htext).1
    simp only [Option.bind_eq_bind, Option.bind_some]
    cases hx : r.table.find? text with
    | none =>
      rw [htable, Table.find?_upsert_eq_none ht hold hx]
      rfl
    | some x =>
      obtain ⟨x', hx', hcond, hglyph⟩ := Table.exists_find?_upsert ht hold hcondition hx
      rw [htable, hx']
      simp only [Option.bind_some]
      split
      · rfl
      · simp only [Option.bind_some, hcond, hevaluator]
        split
        · rfl
        · rw [Option.map_some, Region.withGlyphOf_token hslice, hglyph]

theorem resolveLeafChecked_upsert (tree : TokenTree) (g : Grammar) (n : Node) :
    r'.resolveLeafChecked tree g n =
      (r.resolveLeafChecked tree g n).map (Option.map (·.withGlyphOf m tree.source.toList)) := by
  unfold resolveLeafChecked
  cases htext : (tree.text? n).filter (· ≠ "") with
  | none => rfl
  | some text =>
    have hslice := TokenTree.slice?_of_text? (Option.filter_eq_some_iff.1 htext).1
    simp only
    cases hx : r.table.find? text with
    | none =>
      rw [htable, Table.find?_upsert_eq_none ht hold hx]
      rfl
    | some x =>
      obtain ⟨x', hx', hcond, hglyph⟩ := Table.exists_find?_upsert ht hold hcondition hx
      rw [htable, hx']
      simp only [hcond, hevaluator, hglyph]
      rw [← Region.withGlyphOf_token hslice]
      rcases tree.inStringChecked g n with e | _ | _
      · rfl
      · rcases tree.parentKindChecked n with e | kind
        · rfl
        · simp only [bind, Except.bind, Bool.false_eq_true, if_false]
          split <;> rfl
      · rfl

omit hevaluator in
theorem isEmpty_upsert : r.table.isEmpty = r'.table.isEmpty :=
  htable ▸ (sameConditions_upsert ht hold hcondition).isEmpty_congr

theorem resolve_upsert (tree : TokenTree) (g : Grammar) (id : NodeId) :
    r'.resolve tree g id = (r.resolve tree g id).map (·.withGlyphOf m tree.source.toList) := by
  unfold resolve
  rw [isEmpty_upsert ht hold hcondition htable]
  split
  · rfl
  · exact TokenTree.collect_map tree _ id
      (resolveLeaf_upsert ht hold hcondition htable hevaluator tree g)

theorem resolveChecked_upsert (tree : TokenTree) (g : Grammar) (id : NodeId) :
    r'.resolveChecked tree g id =
      (r.resolveChecked tree g id).map (List.map (·.withGlyphOf m tree.source.toList)) := by
  unfold resolveChecked
  rw [isEmpty_upsert ht hold hcondition htable]
  split
  · rfl
  · exact TokenTree.collectChecked_map tree _ id
      (resolveLeafChecked_upsert ht hold hcondition htable hevaluator tree g)

omit hevaluator in
theorem resolveText_upsert (hpattern : r'.pattern = r.pattern) (text : String) :
    r'.resolveText text = (r.resolveText text).map (·.withGlyphOf m text.toList) := by
  unfold resolveText
  rw [hpattern, List.map_filterMap]
  refine List.filterMap_congr fun x hx => ?_
  have hcovers : slice? text.toList x.range.start x.range.stop = some x.text.toList :=
    @Pattern.slice?_of_mem_matchesFrom r.pattern [] text.toList none 0 x (List.mem_of_mem_filter hx)
  unfold resolveMatch
  cases hfound : r.table.find? x.text with
  | none =>
    rw [htable, Table.find?_upsert_eq_none ht hold hfound]
    rfl
  | some y =>
    obtain ⟨y', hy', -, hglyph⟩ := Table.exists_find?_upsert ht hold hcondition hfound
    rw [htable, hy', Option.map_some, Option.map_some, Option.map_some, hglyph,
      Region.withGlyphOf_token hcovers]

end Upsert

/-- **Editing a glyph moves no fold.** Whatever edits made a table, a mapping that replaces another
one with the same source and the same condition leaves a table that is accepted if the old one is,
and the resolver for it is the one that an exchange of the tables leaves. On every tree, for every
grammar and from every node, and on every text, the two resolvers give the same regions in the same
order, except that those that cover the source show the new glyph. A tree that keeps one of them from
a result keeps the other from it for the same reason. -/
theorem new_upsert_glyph (engine : Engine) (edits : List Table.Edit) (ev : Evaluator)
    {m old : Mapping} (hold : (Table.empty.run edits).find? m.source = some old)
    (hcondition : old.condition = m.condition) :
    let t := Table.empty.run edits
    let t' := (t.upsert m).2
    ((∃ r, new engine t ev = .ok r) ↔ ∃ r', new engine t' ev = .ok r') ∧
    ∀ r r', new engine t ev = .ok r → new engine t' ev = .ok r' →
      r.replaceTable engine t' = (.ok (), r') ∧
      (∀ tree g id, r'.resolve tree g id =
        (r.resolve tree g id).map (·.withGlyphOf m tree.source.toList)) ∧
      (∀ tree g id, r'.resolveChecked tree g id =
        (r.resolveChecked tree g id).map (List.map (·.withGlyphOf m tree.source.toList))) ∧
      ∀ text, r'.resolveText text = (r.resolveText text).map (·.withGlyphOf m text.toList) := by
  intro t t'
  have ht : t.Consistent := Table.consistent_run edits
  have ht' : t'.Consistent := ht.apply (.upsert m)
  have hsame : SameConditions t t' := sameConditions_upsert ht hold hcondition
  refine ⟨by rw [exists_new_iff ht, exists_new_iff ht', hsame.refused_congr ht ht'], ?_⟩
  intro r r' hr hr'
  obtain ⟨-, -, rfl⟩ := new_eq_ok_iff.1 hr
  obtain ⟨hvalid, hbuilt, rfl⟩ := new_eq_ok_iff.1 hr'
  exact ⟨replaceTable_of_ok hvalid hbuilt,
    resolve_upsert ht hold hcondition rfl rfl, resolveChecked_upsert ht hold hcondition rfl rfl,
    resolveText_upsert ht hold hcondition rfl (Pattern.ofTable_congr ht ht' hsame).symm⟩

/-- A comparison gets another glyph and goes to another category. The regions of a tree stay where
they were, and so do those of a text. -/
theorem new_upsert_comparison :
    ∃ r r', new .willing (Table.empty.run operatorEdits) .builtin = .ok r ∧
      new .willing ((Table.empty.run operatorEdits).upsert ⟨">=", "⩾", "Order", .always⟩).2
        .builtin =
        .ok r' ∧
      r.resolve comparisonTree Language.python.grammar 0 =
        [.token ⟨1, 3⟩ "≥", .token ⟨4, 6⟩ "^"] ∧
      r'.resolve comparisonTree Language.python.grammar 0 =
        [.token ⟨1, 3⟩ "⩾", .token ⟨4, 6⟩ "^"] ∧
      r'.resolveText "é>=b" =
        (r.resolveText "é>=b").map (·.withGlyphOf ⟨">=", "⩾", "Order", .always⟩ "é>=b".toList) := by
  have hold : (Table.empty.run operatorEdits).find? ">=" =
      some ⟨">=", "≥", "Comparison", .always⟩ := by decide +kernel
  obtain ⟨r, hr⟩ : ∃ r, new .willing (Table.empty.run operatorEdits) .builtin = .ok r := ⟨_, rfl⟩
  obtain ⟨hiff, hregions⟩ := new_upsert_glyph .willing operatorEdits .builtin
    (m := ⟨">=", "⩾", "Order", .always⟩) hold rfl
  obtain ⟨r', hr'⟩ := hiff.1 ⟨r, hr⟩
  obtain ⟨-, htree, -, htext⟩ := hregions r r' hr hr'
  have hbefore : r.resolve comparisonTree Language.python.grammar 0 =
      [.token ⟨1, 3⟩ "≥", .token ⟨4, 6⟩ "^"] := by
    rw [(new_eq_ok_iff.1 hr).2.2]
    decide +kernel
  refine ⟨r, r', hr, hr', hbefore, ?_, htext _⟩
  rw [htree, hbefore]
  decide +kernel

end Resolver

end GlyphFold
