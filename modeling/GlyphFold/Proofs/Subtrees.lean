import GlyphFold.Proofs.CheckedWalks
import GlyphFold.Proofs.NestedRanges
import GlyphFold.Proofs.RootedTrees

/-!
# Subtrees

A host that edits a part of a document asks for the regions below one node, and puts them in the
place of the old ones. What a resolver finds below a node does not depend on where its walk starts,
though the guard and the conditions look at parents, which may lie above the start.

1. `Grown.exists_nodesBelow_eq`: the nodes below a node are listed without a gap, wherever the
   listing starts, by induction from the children to their parent
2. `Grown.leavesBelow_eq_filter`: the leaves below a node are those nodes below it that have no
   children, so they are listed without a gap as well (`Grown.exists_leavesBelow_eq`)
3. `leafRegions`, `resolve_eq_leafRegions`: a resolver looks at each leaf for itself
4. `resolve_subtree`: the regions below a node are a part of those of the whole tree
-/

namespace GlyphFold

/-! ## Nodes and leaves below a node -/

namespace TokenTree.Grown

variable {t : TokenTree} (h : t.Grown)

/-- The nodes below a node follow each other in the list of those below any node above it. -/
theorem exists_nodesBelow_eq {id x : NodeId} (hx : x ∈ h.nodesBelow id) :
    ∃ earlier later, h.nodesBelow id = earlier ++ h.nodesBelow x ++ later := by
  induction id using h.children_induction with
  | step id ih =>
    rcases h.mem_nodesBelow.1 hx with rfl | ⟨c, hc, hx⟩
    · exact ⟨[], [], (List.append_nil _).symm⟩
    · obtain ⟨earlier, later, hsplit⟩ := ih c hc hx
      obtain ⟨left, right, hchildren⟩ := List.append_of_mem hc
      refine ⟨id :: left.flatMap h.nodesBelow ++ earlier, later ++ right.flatMap h.nodesBelow, ?_⟩
      rw [h.nodesBelow_eq id, hchildren, List.flatMap_append, List.flatMap_cons, hsplit]
      simp only [List.cons_append, List.append_assoc]

/-- The leaves below a node are the nodes below it that have no children, in the same order. -/
theorem leavesBelow_eq_filter (id : NodeId) :
    h.leavesBelow id = (h.nodesBelow id).filter fun x => t.children x = [] := by
  induction id using h.children_induction with
  | step id ih =>
    rw [h.leavesBelow_eq, h.nodesBelow_eq]
    by_cases hleaf : t.children id = []
    · rw [if_pos hleaf, hleaf, List.flatMap_nil, List.filter_cons_of_pos (by simpa using hleaf),
        List.filter_nil]
    · rw [if_neg hleaf, List.filter_cons_of_neg (by simpa using hleaf), List.filter_flatMap]
      exact List.flatMap_congr ih

theorem mem_leavesBelow_iff {id leaf : NodeId} :
    leaf ∈ h.leavesBelow id ↔ t.children leaf = [] ∧
      Relation.ReflTransGen (fun p c => c ∈ t.children p) id leaf := by
  rw [h.leavesBelow_eq_filter, List.mem_filter, h.mem_nodesBelow_iff, decide_eq_true_iff, and_comm]

/-- The leaves below a node follow each other, too, and no other leaf stands between them. -/
theorem exists_leavesBelow_eq {id x : NodeId} (hid : id < t.size) (hx : x ∈ h.nodesBelow id) :
    ∃ earlier later, h.leavesBelow id = earlier ++ h.leavesBelow x ++ later ∧
      ∀ leaf ∈ earlier ++ later, leaf ∉ h.leavesBelow x := by
  obtain ⟨earlier, later, hsplit⟩ := h.exists_nodesBelow_eq hx
  -- No node is listed twice, so the nodes of the block are none of those around it.
  have hnodup := h.nodup_nodesBelow id hid
  rw [hsplit, List.append_assoc, List.nodup_append] at hnodup
  obtain ⟨-, hrest, hearlier⟩ := hnodup
  refine ⟨earlier.filter fun x => t.children x = [], later.filter fun x => t.children x = [], ?_,
    fun leaf hleaf hbelow => ?_⟩
  · rw [h.leavesBelow_eq_filter, hsplit, List.filter_append, List.filter_append,
      h.leavesBelow_eq_filter]
  · rw [h.leavesBelow_eq_filter] at hbelow
    have hbelow := List.mem_of_mem_filter hbelow
    rcases List.mem_append.1 hleaf with hleaf | hleaf
    · exact hearlier leaf (List.mem_of_mem_filter hleaf) leaf (List.mem_append_left _ hbelow) rfl
    · exact (List.nodup_append.1 hrest).2.2 leaf hbelow leaf (List.mem_of_mem_filter hleaf) rfl

end TokenTree.Grown

/-! ## Resolvers -/

namespace Resolver

/-- The regions that some leaves give, from the first leaf to the last. -/
def leafRegions (r : Resolver) (t : TokenTree) (g : Grammar) (leaves : List NodeId) : List Region :=
  leaves.filterMap fun leaf => (t.node? leaf).bind (r.resolveLeaf t g)

theorem leafRegions_append (r : Resolver) (t : TokenTree) (g : Grammar)
    (leaves leaves' : List NodeId) :
    r.leafRegions t g (leaves ++ leaves') = r.leafRegions t g leaves ++ r.leafRegions t g leaves' :=
  List.filterMap_append

section

variable (r : Resolver) {t : TokenTree} (h : t.Grown) (g : Grammar) {id : NodeId}
  (hid : id < t.size)

include hid

theorem resolve_eq_leafRegions : r.resolve t g id = r.leafRegions t g (h.leavesBelow id) :=
  r.resolve_eq_gather h g hid

include h in
/-- Below a node with children lies what lies below the children. -/
theorem resolve_eq_flatMap (hinner : t.children id ≠ []) :
    r.resolve t g id = (t.children id).flatMap (r.resolve t g) := by
  rw [r.resolve_eq_gather h g hid, TokenTree.gather_of_children h _ hinner]
  refine List.flatMap_congr fun c hc => ?_
  exact (r.resolve_eq_gather h g (h.lt_of_mem_children hc).2).symm

end

/-- **Subtrees agree with the whole tree.** From every node that can be reached from the root of a
tree that was grown by pushes, whatever the resolver and the grammar, a walk ends and gives the
regions of the leaves that can be reached from the node. These leaves follow each other among all
leaves, so that the regions of the whole tree are those of the leaves before, those of the walk from
the node, and those of the leaves behind. The regions of a node with children are those of its
children, one child after the other. -/
theorem resolve_subtree (r : Resolver) (g : Grammar) {t : TokenTree} (h : t.Grown) {id : NodeId}
    (hid : Relation.ReflTransGen (fun p c => c ∈ t.children p) 0 id) :
    r.resolveChecked t g id = .ok (r.resolve t g id) ∧
    r.resolve t g id = r.leafRegions t g (h.leavesBelow id) ∧
    (∀ leaf, leaf ∈ h.leavesBelow id ↔ t.children leaf = [] ∧
      Relation.ReflTransGen (fun p c => c ∈ t.children p) id leaf) ∧
    (∃ earlier later, h.leavesBelow 0 = earlier ++ h.leavesBelow id ++ later ∧
      (∀ leaf ∈ earlier ++ later, leaf ∉ h.leavesBelow id) ∧
      r.resolve t g 0 = r.leafRegions t g earlier ++ r.resolve t g id ++ r.leafRegions t g later) ∧
    (t.children id ≠ [] → r.resolve t g id = (t.children id).flatMap (r.resolve t g)) := by
  have hroot : 0 < t.size := h.pushed.size_pos
  have hbelow : id ∈ h.nodesBelow 0 := h.mem_nodesBelow_iff.2 hid
  have hsize : id < t.size := (h.bounds_of_mem_nodesBelow hroot hbelow).2
  obtain ⟨earlier, later, hleaves, hothers⟩ := h.exists_leavesBelow_eq hroot hbelow
  refine ⟨resolveChecked_of_grown h hsize, r.resolve_eq_leafRegions h g hsize,
    fun leaf => h.mem_leavesBelow_iff, ⟨earlier, later, hleaves, hothers, ?_⟩,
    r.resolve_eq_flatMap h g hsize⟩
  rw [r.resolve_eq_leafRegions h g hroot, hleaves, leafRegions_append, leafRegions_append,
    r.resolve_eq_leafRegions h g hsize]

/-- The power in a comparison, asked for alone, gives the part of it that the whole tree gives. -/
theorem resolve_subtree_comparisonTree :
    ∃ r, new .willing (Table.empty.run operatorEdits) .builtin = .ok r ∧
      r.resolveChecked comparisonTree Language.python.grammar 4 = .ok [.token ⟨4, 6⟩ "^"] ∧
      ∃ before after, r.resolve comparisonTree Language.python.grammar 0 =
        before ++ [.token ⟨4, 6⟩ "^"] ++ after := by
  obtain ⟨r, hr⟩ : ∃ r, new .willing (Table.empty.run operatorEdits) .builtin = .ok r := ⟨_, rfl⟩
  have hreach : Relation.ReflTransGen (fun p c => c ∈ comparisonTree.children p) 0 4 :=
    .head (b := 1) (by decide) (.single (by decide))
  obtain ⟨hchecked, -, -, ⟨earlier, later, -, -, hwhole⟩, -⟩ :=
    resolve_subtree r Language.python.grammar grown_comparisonTree hreach
  have hpower : r.resolve comparisonTree Language.python.grammar 4 = [.token ⟨4, 6⟩ "^"] := by
    rw [(new_eq_ok_iff.1 hr).2.2]
    decide +kernel
  rw [hpower] at hchecked hwhole
  exact ⟨r, hr, hchecked, _, _, hwhole⟩

end Resolver

end GlyphFold
