import GlyphFold.Proofs.RegionOrder
import GlyphFold.Proofs.TreeMode

/-!
# Trees with nested ranges

A host gives each node a range of the source, and nothing checks it. Where the ranges of a tree are
nested, a walk finds its regions in the order of the source, however deep their leaves lie.

1. `TokenTree.Nested`: children lie inside of their parent and one behind the other
2. `bounds_of_mem_gather`, `pairwise_gather`: by induction from the children to their parent, what the
   leaves below a node give lies inside of the node and one behind the other
3. `resolve_nested`: the regions of a resolver are in order, and rendering shows them all
-/

namespace GlyphFold

/-! ## Nested ranges -/

namespace Span

end Span

namespace TokenTree

/-- The ranges of a node's children, first to last. -/
def childRanges (t : TokenTree) (id : NodeId) : List Span :=
  (t.children id).filterMap fun c => (t.node? c).map Node.range

theorem Grown.exists_node {t : TokenTree} (h : t.Grown) {id c : NodeId} (hc : c ∈ t.children id) :
    ∃ n, t.node? c = some n := TokenTree.exists_node (h.lt_of_mem_children hc).2

/-- Each child's range lies inside of its parent's, and each sibling ends where the next one starts or
before. A range that is empty or runs backward covers no text and has no place among its siblings, so
the next one is the next that covers some. -/
structure Nested (t : TokenTree) : Prop where
  inside : ∀ id < t.size, ∀ n ∈ t.node? id, ∀ s ∈ t.childRanges id, n.range.holds s = true
  apart : ∀ id < t.size, ((t.childRanges id).filter fun s => s.start < s.stop).IsChain
    fun s s' => s.stop ≤ s'.start

section Gather

variable {t : TokenTree} (h : t.Grown) (hn : t.Nested) {find : Node → Option Region}
  (hfind : ∀ n f, find n = some f → f.range = n.range ∧ f.start < f.stop)

include hn hfind

end Gather

end TokenTree

/-! ## Resolvers -/

namespace Resolver

section

variable {r : Resolver} (ht : r.table.Consistent) {t : TokenTree} {g : Grammar}

include ht

theorem standsFor_of_resolveLeaf {n : Node} {f : Region} (hf : r.resolveLeaf t g n = some f) :
    ∃ m, StandsFor r.table t.source.toList f m := by
  obtain ⟨m, hm, rfl⟩ := (resolveLeaf_eq_some_iff_leafFolds ht).1 hf
  have hle := TokenTree.start_le_stop_of_text? hm.text
  have hstart : (Region.token n.range m.glyph).start = n.range.start := Region.start_token hle _
  have hstop : (Region.token n.range m.glyph).stop = n.range.stop := Region.stop_token hle _
  refine ⟨m, ?_, hm.found, rfl⟩
  rw [hstart, hstop]
  exact TokenTree.slice?_of_text? hm.text

theorem standsFor_of_mem_resolve (h : t.Grown) {id : NodeId} (hid : id < t.size) {f : Region}
    (hf : f ∈ r.resolve t g id) : ∃ m, StandsFor r.table t.source.toList f m := by
  rw [resolve_eq_gather _ h g hid] at hf
  obtain ⟨leaf, -, hleaf⟩ := List.mem_filterMap.1 hf
  obtain ⟨n, -, hn⟩ := Option.bind_eq_some_iff.1 hleaf
  exact standsFor_of_resolveLeaf ht hn

end

/-- A comparison with a power, whose operators are leaves at two depths. -/
def comparisonTree : TokenTree :=
  (TokenTree.ofSource "a>=b**c" "module").push 0 "comparison_operator" ⟨0, 7⟩
    |>.push 1 "identifier" ⟨0, 1⟩ |>.push 1 ">=" ⟨1, 3⟩ |>.push 1 "binary_operator" ⟨3, 7⟩
    |>.push 4 "identifier" ⟨3, 4⟩ |>.push 4 "**" ⟨4, 6⟩ |>.push 4 "identifier" ⟨6, 7⟩

theorem grown_comparisonTree : comparisonTree.Grown := by
  unfold comparisonTree
  repeat refine .push ?_ (by decide) _ _
  exact .ofSource _ _

def operatorEdits : List Table.Edit :=
  [.upsert ⟨"**", "^", "Operator", .parentIsBinary⟩, .upsert ⟨">=", "≥", "Comparison", .always⟩]

end Resolver

end GlyphFold
