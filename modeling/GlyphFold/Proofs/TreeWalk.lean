import GlyphFold.Proofs.PushedTrees

/-!
# Walks over grown trees

A tree is grown when every node was pushed under a node that was already there. The child lists and
the parents of a grown tree describe one tree, with smaller numbers above larger ones, so the nodes
and the leaves below a node can be listed by recursion, and a walk with a stack does the same.

1. `Grown`, and what a child list of a grown tree looks like (`lt_of_mem_children`,
   `parent_of_mem_children`, `nodup_children`)
2. `nodesBelow`, `leavesBelow`: the nodes and the leaves below a node, by recursion
3. `nodup_nodesBelow`: no node comes twice
4. `found_turn`, `found_walk`: what was found and what is still to be found make up the same at every
   turn
5. `walk_node`: within a turn for each node a walk ends with what the leaves give from left to right
-/

namespace GlyphFold.TokenTree

/-! ## Grown trees -/

/-- The tree was built by pushes under nodes that were already there. -/
inductive Grown : TokenTree → Prop
  | ofSource (source rootKind : String) : Grown (ofSource source rootKind)
  | push {t : TokenTree} (h : Grown t) {parent : NodeId} (hparent : parent < t.size) (kind : String)
      (range : Span) : Grown (t.push parent kind range)

namespace Grown

variable {t : TokenTree}

section Children

variable (h : t.Grown)

include h

theorem pushed : t.Pushed := by
  induction h with
  | ofSource source rootKind => exact .ofSource source rootKind
  | push _ _ kind range ih => exact ih.push _ kind range

/-- A node comes after its parent. -/
theorem parent_lt {p c : NodeId} (hc : t.parent? c = some p) : p < c := by
  induction h with
  | ofSource source rootKind =>
    rw [parent?_ofSource] at hc
    cases hc
  | push h hparent kind range ih =>
    rw [parent?_push] at hc
    split at hc
    · next hnew =>
      obtain rfl := Option.some.inj hc
      exact hnew ▸ hparent
    · exact ih hc

/-- A child comes after its parent. -/
theorem lt_of_mem_children {id c : NodeId} (hc : c ∈ t.children id) : id < c ∧ c < t.size :=
  ⟨h.parent_lt (h.pushed.parent_of_mem_children hc), h.pushed.lt_size_of_mem_children hc⟩

/-- A node hangs below its parent alone. -/
theorem parent_of_mem_children {id c : NodeId} (hc : c ∈ t.children id) : t.parent? c = some id :=
  h.pushed.parent_of_mem_children hc

theorem nodup_children (id : NodeId) : (t.children id).Nodup := h.pushed.nodup_children id

theorem sub_lt_of_mem_children {id c : NodeId} (hc : c ∈ t.children id) :
    t.size - c < t.size - id := by
  obtain ⟨hlt, hsize⟩ := h.lt_of_mem_children hc
  exact Nat.sub_lt_sub_left (Nat.lt_trans hlt hsize) hlt

/-- Induction from the children to their parent. -/
theorem children_induction {motive : NodeId → Prop}
    (step : ∀ id, (∀ c ∈ t.children id, motive c) → motive id) (id : NodeId) : motive id := by
  induction hn : t.size - id using Nat.strongRecOn generalizing id with
  | ind n ih => exact step id fun c hc => ih (t.size - c) (hn ▸ h.sub_lt_of_mem_children hc) c rfl

end Children

/-! ## What lies below a node -/

/-- A node and the nodes below it, each one before those below it. -/
def nodesBelow (h : t.Grown) (id : NodeId) : List NodeId :=
  id :: (t.children id).attach.flatMap fun c => h.nodesBelow c.1
  termination_by t.size - id
  decreasing_by exact h.sub_lt_of_mem_children c.2

/-- The leaves below a node from left to right: a node without children is a leaf, and the leaves
below any other are those below its children. -/
def leavesBelow (h : t.Grown) (id : NodeId) : List NodeId :=
  if t.children id = [] then [id]
  else (t.children id).attach.flatMap fun c => h.leavesBelow c.1
  termination_by t.size - id
  decreasing_by exact h.sub_lt_of_mem_children c.2

section Below

variable (h : t.Grown)

theorem nodesBelow_eq (id : NodeId) :
    h.nodesBelow id = id :: (t.children id).flatMap h.nodesBelow := by
  rw [nodesBelow, List.flatMap_def, List.flatMap_def, List.attach_map_val]

theorem leavesBelow_eq (id : NodeId) :
    h.leavesBelow id =
      if t.children id = [] then [id] else (t.children id).flatMap h.leavesBelow := by
  rw [leavesBelow, List.flatMap_def, List.flatMap_def, List.attach_map_val]

theorem mem_nodesBelow {id x : NodeId} :
    x ∈ h.nodesBelow id ↔ x = id ∨ ∃ c ∈ t.children id, x ∈ h.nodesBelow c := by
  rw [nodesBelow_eq, List.mem_cons, List.mem_flatMap]

theorem bounds_of_mem_nodesBelow {id x : NodeId} (hid : id < t.size) (hx : x ∈ h.nodesBelow id) :
    id ≤ x ∧ x < t.size := by
  induction id using h.children_induction with
  | step id ih =>
    rcases h.mem_nodesBelow.1 hx with rfl | ⟨c, hc, hx⟩
    · exact ⟨Nat.le_refl x, hid⟩
    · obtain ⟨hlt, hsize⟩ := h.lt_of_mem_children hc
      obtain ⟨hle, hx⟩ := ih c hc hsize hx
      exact ⟨Nat.le_of_lt (Nat.lt_of_lt_of_le hlt hle), hx⟩

/-- A node below another one hangs below a node that lies there too. -/
theorem exists_parent_below {id x : NodeId} (hx : x ∈ h.nodesBelow id) (hne : x ≠ id) :
    ∃ p ∈ h.nodesBelow id, x ∈ t.children p := by
  induction id using h.children_induction with
  | step id ih =>
    rcases h.mem_nodesBelow.1 hx with rfl | ⟨c, hc, hx⟩
    · exact absurd rfl hne
    · by_cases hxc : x = c
      · exact ⟨id, h.mem_nodesBelow.2 (.inl rfl), hxc ▸ hc⟩
      · obtain ⟨p, hp, hxp⟩ := ih c hc hx hxc
        exact ⟨p, h.mem_nodesBelow.2 (.inr ⟨c, hc, hp⟩), hxp⟩

/-! ## No node comes twice -/

/-- A child does not lie below another child of its parent. -/
theorem not_mem_nodesBelow_sibling {id c c' : NodeId} (hc : c ∈ t.children id)
    (hc' : c' ∈ t.children id) (hne : c ≠ c') : c ∉ h.nodesBelow c' := by
  intro hmem
  obtain ⟨p, hp, hcp⟩ := h.exists_parent_below hmem hne
  have hpid : p = id :=
    Option.some.inj ((h.parent_of_mem_children hcp).symm.trans (h.parent_of_mem_children hc))
  obtain ⟨hlt, hsize⟩ := h.lt_of_mem_children hc'
  have hle := (h.bounds_of_mem_nodesBelow hsize hp).1
  exact Nat.lt_irrefl _ (Nat.lt_of_lt_of_le hlt (hpid ▸ hle))

/-- Nothing lies below two children of one node: from a common node the parents would lead to one of
the two, inside the other's list. -/
theorem disjoint_nodesBelow {id c c' : NodeId} (hc : c ∈ t.children id) (hc' : c' ∈ t.children id)
    (hne : c ≠ c') : (h.nodesBelow c).Disjoint (h.nodesBelow c') := by
  intro x hx hx'
  induction x using Nat.strongRecOn with
  | ind x ih =>
    have hxc : x ≠ c := fun e => h.not_mem_nodesBelow_sibling hc hc' hne (e ▸ hx')
    have hxc' : x ≠ c' := fun e => h.not_mem_nodesBelow_sibling hc' hc (Ne.symm hne) (e ▸ hx)
    obtain ⟨p, hp, hxp⟩ := h.exists_parent_below hx hxc
    obtain ⟨p', hp', hxp'⟩ := h.exists_parent_below hx' hxc'
    have hpp : p' = p :=
      Option.some.inj ((h.parent_of_mem_children hxp').symm.trans (h.parent_of_mem_children hxp))
    exact ih p (h.lt_of_mem_children hxp).1 hp (hpp ▸ hp')

theorem nodup_nodesBelow (id : NodeId) (hid : id < t.size) : (h.nodesBelow id).Nodup := by
  induction id using h.children_induction with
  | step id ih =>
    rw [nodesBelow_eq, List.nodup_cons, List.nodup_flatMap]
    refine ⟨fun hmem => ?_, fun c hc => ih c hc (h.lt_of_mem_children hc).2, ?_⟩
    · obtain ⟨c, hc, hid'⟩ := List.mem_flatMap.1 hmem
      obtain ⟨hlt, hsize⟩ := h.lt_of_mem_children hc
      exact Nat.lt_irrefl _ (Nat.lt_of_lt_of_le hlt (h.bounds_of_mem_nodesBelow hsize hid').1)
    · exact (h.nodup_children id).imp_of_mem fun hc hc' hne => h.disjoint_nodesBelow hc hc' hne

end Below

end Grown

/-! ## Walks -/

section Walks

variable {t : TokenTree} (h : t.Grown) {α : Type} (find : Node → Option α)

/-- What the leaves below a node give, from left to right. -/
def gather (id : NodeId) : List α :=
  (h.leavesBelow id).filterMap fun leaf => (t.node? leaf).bind find

theorem gather_of_leaf {id : NodeId} (hleaf : t.children id = []) :
    gather h find id = ((t.node? id).bind find).toList := by
  unfold gather
  rw [h.leavesBelow_eq, if_pos hleaf]
  cases hfind : (t.node? id).bind find with
  | none => simp [hfind]
  | some x => simp [hfind]

theorem gather_of_children {id : NodeId} (hinner : t.children id ≠ []) :
    gather h find id = (t.children id).flatMap (gather h find) := by
  unfold gather
  rw [h.leavesBelow_eq, if_neg hinner, List.filterMap_flatMap]

/-- What a turn finds, and what is left to be found from the stack, is what was left before it. -/
theorem found_turn (w : Walk α) :
    (t.turn find w).found.toList ++ (t.turn find w).stack.flatMap (gather h find) =
      w.found.toList ++ w.stack.flatMap (gather h find) := by
  obtain ⟨stack, found⟩ := w
  cases stack with
  | nil => rfl
  | cons id stack =>
    rw [List.flatMap_cons]
    by_cases hleaf : t.children id = []
    · obtain ⟨hstack, hfound⟩ := turn_leaf find hleaf stack found
      rw [hstack, hfound, gather_of_leaf h find hleaf, List.append_assoc]
    · rw [turn_inner find hleaf, gather_of_children h find hleaf, List.flatMap_append]

theorem found_walk (turns : Nat) (w : Walk α) :
    (t.walk find turns w).found.toList ++ (t.walk find turns w).stack.flatMap (gather h find) =
      w.found.toList ++ w.stack.flatMap (gather h find) := by
  induction turns generalizing w with
  | zero => rfl
  | succ turns ih =>
    rw [walk]
    split
    · rfl
    · exact (ih _).trans (found_turn h find w)

/-- **Walks.** A walk from a node of a grown tree is over within a turn for each node of the tree, and
finds what the leaves below the node give from left to right. -/
theorem walk_node {id : NodeId} (hid : id < t.size) :
    (t.walk find t.size ⟨[id], #[]⟩).stack = [] ∧ t.collect find id = gather h find id := by
  have hself : id ∉ t.children id := fun hc => Nat.lt_irrefl id (h.lt_of_mem_children hc).1
  have hover := walk_over h.pushed hself find hid
  have hfound := found_walk h find t.size ⟨[id], #[]⟩
  rw [hover, List.flatMap_nil, List.append_nil] at hfound
  refine ⟨hover, hfound.trans ?_⟩
  simp

end Walks

end GlyphFold.TokenTree
