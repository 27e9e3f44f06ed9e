import GlyphFold.Proofs.TableInvariant
import GlyphFold.Proofs.TreeWalk
import GlyphFold.Resolver

/-!
# Folding trees

A resolver walks a tree with a stack and looks at each leaf as it comes to it. What it finds can be
said without the walk.

1. `LeafFolds`: what it takes for a leaf to fold, filter by filter. A leaf gives a region exactly then
   (`resolveLeaf_eq_some_iff_leafFolds`).
2. `resolve_eq_gather`: a resolver gives what the leaves below the node give from left to right.
3. `resolve_eq_leaves`: the two together, for a grown tree and a table made by any edits.
-/

namespace GlyphFold

/-- The leaf folds by a mapping: its text is there and is the mapping's source, neither its kind nor
that of its parent is string material, and the mapping's condition is the one that always holds or
has a predicate that holds of the leaf. -/
structure LeafFolds (table : Table) (ev : Evaluator) (t : TokenTree) (g : Grammar) (leaf : Node)
    (m : Mapping) : Prop where
  text : t.text? leaf = some m.source
  found : table.find? m.source = some m
  ownKind : g.isStringLiteral leaf.kind = false
  parentKind : ∀ kind, t.parentKind? leaf = some kind → g.isStringLiteral kind = false
  condition : m.condition = .always ∨ ∃ p, ev.predicate? m.condition = some p ∧
    p ⟨leaf.kind, m.source, t.parentKind? leaf, g⟩ = true

namespace Resolver

theorem resolveLeaf_of_isEmpty {r : Resolver} (hempty : r.table.isEmpty = true) (t : TokenTree)
    (g : Grammar) (n : Node) : r.resolveLeaf t g n = none := by
  refine Option.eq_none_iff_forall_ne_some.2 fun region hregion => ?_
  obtain ⟨m, ctx, hcand, -⟩ := resolveLeaf_eq_some_iff.1 hregion
  obtain ⟨text, -, -, hm, -⟩ := candidate?_eq_some_iff.1 hcand
  rw [Table.find?_of_isEmpty hempty] at hm
  cases hm

/-- A resolver gives what the leaves below the node give. An empty table is not walked for, and no
leaf would give anything. -/
theorem resolve_eq_gather (r : Resolver) {t : TokenTree} (h : t.Grown) (g : Grammar) {id : NodeId}
    (hid : id < t.size) : r.resolve t g id = TokenTree.gather h (r.resolveLeaf t g) id := by
  unfold resolve
  split
  · next hempty =>
    symm
    refine List.filterMap_eq_nil_iff.2 fun leaf _ => ?_
    cases t.node? leaf with
    | none => rfl
    | some n => exact resolveLeaf_of_isEmpty hempty t g n
  · exact (TokenTree.walk_node h _ hid).2

section Leaves

variable {r : Resolver} (ht : r.table.Consistent)

include ht

theorem resolveLeaf_eq_some_iff_leafFolds {t : TokenTree} {g : Grammar} {n : Node}
    {region : Region} :
    r.resolveLeaf t g n = some region ↔
      ∃ m, LeafFolds r.table r.evaluator t g n m ∧ region = .token n.range m.glyph := by
  rw [resolveLeaf_eq_some_iff]
  constructor
  · rintro ⟨m, ctx, hcand, hcond, rfl⟩
    obtain ⟨text, htext, -, hm, hstring, rfl⟩ := candidate?_eq_some_iff.1 hcand
    obtain rfl := ht.source_of_find? text m hm
    obtain ⟨hown, hparent⟩ := TokenTree.inString_eq_false_iff.1 hstring
    refine ⟨m, ⟨htext, hm, hown, hparent, ?_⟩, rfl⟩
    exact hcond.elim .inl Evaluator.holds_iff.1
  · rintro ⟨m, h, rfl⟩
    have hne := Table.ne_blank_of_find? ht h.found
    have hstring := TokenTree.inString_eq_false_iff.2 ⟨h.ownKind, h.parentKind⟩
    exact ⟨m, _, candidate?_eq_some_iff.2 ⟨m.source, h.text, hne, h.found, hstring, rfl⟩,
      .inr (Evaluator.holds_iff.2 h.condition), rfl⟩

end Leaves

/-- **Tree mode looks at every leaf.** From any node of a tree that was grown by pushes the walk is
over within a turn for each node of the tree. Its regions are those of the leaves below the node from
left to right, and a leaf has a region exactly if it folds: it then has the leaf's range and the
glyph of the leaf's mapping. -/
theorem resolve_eq_leaves (engine : Engine) (edits : List Table.Edit) (ev : Evaluator)
    {r : Resolver} (hr : new engine (Table.empty.run edits) ev = .ok r) {t : TokenTree}
    (h : t.Grown) {id : NodeId} (hid : id < t.size) (g : Grammar) :
    (t.walk (r.resolveLeaf t g) t.size ⟨[id], #[]⟩).stack = [] ∧
    r.resolve t g id =
      (h.leavesBelow id).filterMap (fun leaf => (t.node? leaf).bind (r.resolveLeaf t g)) ∧
    ∀ n region, r.resolveLeaf t g n = some region ↔
      ∃ m, LeafFolds (Table.empty.run edits) ev t g n m ∧ region = .token n.range m.glyph ∧
        region.range = n.range := by
  obtain ⟨-, -, rfl⟩ := new_eq_ok_iff.1 hr
  have ht : (Table.empty.run edits).Consistent := Table.consistent_run edits
  refine ⟨(TokenTree.walk_node h _ hid).1, resolve_eq_gather _ h g hid, fun n region => ?_⟩
  rw [resolveLeaf_eq_some_iff_leafFolds ht]
  refine exists_congr fun m => and_congr_right fun hm => ?_
  constructor
  · rintro rfl
    exact ⟨rfl, Region.range_token (TokenTree.start_le_stop_of_text? hm.text) _⟩
  · exact And.left

/-- A power whose exponent is a string that holds the power operator. -/
def powerTree : TokenTree :=
  (TokenTree.ofSource "x**'**'" "module").push 0 "binary_operator" ⟨0, 7⟩
    |>.push 1 "identifier" ⟨0, 1⟩ |>.push 1 "**" ⟨1, 3⟩ |>.push 1 "string" ⟨3, 7⟩
    |>.push 4 "string_start" ⟨3, 4⟩ |>.push 4 "string_content" ⟨4, 6⟩
    |>.push 4 "string_end" ⟨6, 7⟩

theorem grown_powerTree : powerTree.Grown := by
  unfold powerTree
  repeat refine .push ?_ (by decide) _ _
  exact .ofSource _ _

theorem leavesBelow_powerTree : grown_powerTree.leavesBelow 0 = [2, 3, 5, 6, 7] := by
  have hinner : powerTree.children 0 = [1] ∧ powerTree.children 1 = [2, 3, 4] ∧
      powerTree.children 4 = [5, 6, 7] := by decide
  have hleaves : ∀ leaf ∈ [2, 3, 5, 6, 7], grown_powerTree.leavesBelow leaf = [leaf] := by
    intro leaf hleaf
    have hchildren : ∀ leaf ∈ [2, 3, 5, 6, 7], powerTree.children leaf = [] := by decide
    rw [TokenTree.Grown.leavesBelow_eq, if_pos (hchildren leaf hleaf)]
  have hstring : grown_powerTree.leavesBelow 4 = [5, 6, 7] := by
    rw [TokenTree.Grown.leavesBelow_eq, hinner.2.2]
    simp [hleaves]
  have hpower : grown_powerTree.leavesBelow 1 = [2, 3, 5, 6, 7] := by
    rw [TokenTree.Grown.leavesBelow_eq, hinner.2.1]
    simp [hleaves, hstring]
  rw [TokenTree.Grown.leavesBelow_eq, hinner.1]
  simp [hpower]

/-- The operator folds where it stands in a binary expression, and not in the string. -/
theorem resolve_powerTree :
    ∃ r, new .willing (Table.empty.run [.upsert ⟨"**", "^", "Operator", .parentIsBinary⟩]) .builtin =
        .ok r ∧
      r.resolve powerTree Language.python.grammar 0 = [.token ⟨1, 3⟩ "^"] := by
  refine ⟨_, rfl, ?_⟩
  rw [(resolve_eq_leaves .willing [.upsert ⟨"**", "^", "Operator", .parentIsBinary⟩] .builtin rfl
    grown_powerTree (by decide) _).2.1, leavesBelow_powerTree]
  decide +kernel

end Resolver

end GlyphFold
