import Mathlib.Data.List.Nodup
import Mathlib.Data.List.Perm.Subperm
import Mathlib.Logic.Relation
import GlyphFold.TokenTree

/-!
# Trees of any pushes

A push takes the number of the parent as it is given, so nodes may be pushed under numbers of nodes
that are not there yet, or never will be. The child lists and the parents still fit together, and a
walk ends from every node but one that was pushed under its own number.

1. `Pushed`, and the nodes of a tree after a push (`node?_push`, `children_push`, `parent?_push`)
2. `mem_children_iff`: a node hangs below its parent unless the parent's number is the larger one
3. `eq_of_cycle`: a cycle of child lists never leaves a node that is its own child
4. `Underway`: what the turns of a walk keep. The walk takes every node off its stack once, so it is
   over within a turn for each node (`walk_over`)
5. `mem_stack_walk`: a node that is its own child never leaves the stack
-/

namespace GlyphFold.TokenTree

/-! ## Pushes -/

/-- The tree was built by pushes under any numbers. -/
inductive Pushed : TokenTree → Prop
  | ofSource (source rootKind : String) : Pushed (ofSource source rootKind)
  | push {t : TokenTree} (h : Pushed t) (parent : NodeId) (kind : String) (range : Span) :
      Pushed (t.push parent kind range)

/-- The number of a node's parent. -/
def parent? (t : TokenTree) (id : NodeId) : Option NodeId := (t.node? id).bind Node.parent

variable {t : TokenTree}

theorem node?_eq_none {id : NodeId} (h : t.size ≤ id) : t.node? id = none :=
  Array.getElem?_eq_none h

theorem exists_node {id : NodeId} (h : id < t.size) : ∃ n, t.node? id = some n :=
  ⟨_, Array.getElem?_eq_getElem h⟩

theorem lt_size_of_node? {id : NodeId} {n : Node} (h : t.node? id = some n) : id < t.size :=
  (Array.getElem?_eq_some_iff.1 h).1

theorem lt_size_of_parent? {id p : NodeId} (h : t.parent? id = some p) : id < t.size := by
  obtain ⟨n, hn, -⟩ := Option.bind_eq_some_iff.1 h
  exact lt_size_of_node? hn

theorem children_of_node? {id : NodeId} {n : Node} (h : t.node? id = some n) :
    t.children id = n.children := by
  unfold children
  rw [h]

theorem parent?_of_node? {id : NodeId} {n : Node} (h : t.node? id = some n) :
    t.parent? id = n.parent := by
  unfold parent?
  rw [h, Option.bind_some]

theorem children_eq_nil {id : NodeId} (h : t.node? id = none) : t.children id = [] := by
  unfold children
  rw [h]

theorem children_ofSource (source rootKind : String) (id : NodeId) :
    (ofSource source rootKind).children id = [] := by
  cases id <;> rfl

theorem parent?_ofSource (source rootKind : String) (id : NodeId) :
    (ofSource source rootKind).parent? id = none := by
  cases id <;> rfl

section Push

variable (t) (parent : NodeId) (kind : String) (range : Span) (id : NodeId)

theorem node?_push :
    (t.push parent kind range).node? id =
      (if id = t.size then some ⟨kind, range, some parent, []⟩ else t.node? id).map fun n =>
        if id = parent then { n with children := n.children ++ [t.size] } else n := by
  unfold node? push size
  rw [Array.getElem?_modify, Array.getElem?_push]
  by_cases hp : parent = id
  · rw [if_pos hp]
    simp only [hp, if_true]
  · rw [if_neg hp]
    simp only [Ne.symm hp, if_false, Option.map_id_fun', id_eq]

/-- The new node goes into the child list of its parent, if that is there or is the new node. -/
theorem children_push :
    (t.push parent kind range).children id =
      if id = parent ∧ id ≤ t.size then t.children id ++ [t.size] else t.children id := by
  unfold children
  rw [node?_push]
  by_cases hid : id = t.size
  · rw [if_pos hid, Option.map_some, node?_eq_none (Nat.le_of_eq hid.symm)]
    by_cases hp : id = parent
    · rw [if_pos hp, if_pos ⟨hp, Nat.le_of_eq hid⟩]
    · rw [if_neg hp, if_neg fun h => hp h.1]
  · rw [if_neg hid]
    cases hn : t.node? id with
    | none =>
      have hlt : t.size < id := Nat.lt_of_not_le fun hle => by
        obtain ⟨n, hn'⟩ := exists_node (Nat.lt_of_le_of_ne hle hid)
        exact nomatch hn.symm.trans hn'
      rw [if_neg fun h => Nat.not_le_of_lt hlt h.2]
      rfl
    | some n =>
      have hle : id ≤ t.size := Nat.le_of_lt (lt_size_of_node? hn)
      rw [Option.map_some]
      by_cases hp : id = parent
      · rw [if_pos hp, if_pos ⟨hp, hle⟩]
      · rw [if_neg hp, if_neg fun h => hp h.1]

theorem parent?_push :
    (t.push parent kind range).parent? id = if id = t.size then some parent else t.parent? id := by
  have hparent : ∀ n : Node, (if id = parent then
      { n with children := n.children ++ [t.size] } else n).parent = n.parent := by
    intro n
    split <;> rfl
  unfold parent?
  rw [node?_push, Option.bind_map]
  simp only [Function.comp_def, hparent]
  split <;> rfl

end Push

/-! ## Parents and child lists -/

namespace Pushed

variable (h : t.Pushed)

include h

theorem size_pos : 0 < t.size := by
  induction h with
  | ofSource source rootKind => exact Nat.one_pos
  | push _ parent kind range ih =>
    rw [size_push]
    exact Nat.succ_pos _

/-- **Parents and child lists.** A node hangs below its parent, unless it was pushed when the parent
was not yet there; then the parent's number is the larger one. Below any other node it does not
hang. -/
theorem mem_children_iff {id c : NodeId} : c ∈ t.children id ↔ t.parent? c = some id ∧ id ≤ c := by
  induction h with
  | ofSource source rootKind => simp [children_ofSource, parent?_ofSource]
  | @push t h parent kind range ih =>
    rw [parent?_push, children_push]
    by_cases hc : c = t.size
    · -- the new node is in no list yet, and its own number bounds the parents that take it
      subst hc
      have hnew : t.size ∉ t.children id := fun hmem =>
        Nat.lt_irrefl _ (lt_size_of_parent? (ih.1 hmem).1)
      rw [if_pos rfl, Option.some.injEq, eq_comm (a := parent)]
      split
      · next hid => simpa using hid
      · next hid => simp [hnew, hid]
    · rw [if_neg hc, ← ih]
      split <;> simp [hc]

theorem parent_of_mem_children {id c : NodeId} (hc : c ∈ t.children id) : t.parent? c = some id :=
  (h.mem_children_iff.1 hc).1

theorem le_of_mem_children {id c : NodeId} (hc : c ∈ t.children id) : id ≤ c :=
  (h.mem_children_iff.1 hc).2

theorem lt_size_of_mem_children {id c : NodeId} (hc : c ∈ t.children id) : c < t.size :=
  lt_size_of_parent? (h.parent_of_mem_children hc)

theorem mem_children_self_iff {id : NodeId} : id ∈ t.children id ↔ t.parent? id = some id := by
  rw [h.mem_children_iff]
  exact and_iff_left (Nat.le_refl id)

theorem nodup_children (id : NodeId) : (t.children id).Nodup := by
  induction h with
  | ofSource source rootKind =>
    rw [children_ofSource]
    exact List.nodup_nil
  | @push t h parent kind range ih =>
    rw [children_push]
    split
    · refine List.nodup_append.2 ⟨ih, List.nodup_singleton _, fun c hc c' hc' hcc => ?_⟩
      have := h.lt_size_of_mem_children hc
      rw [hcc, List.mem_singleton.1 hc'] at this
      exact Nat.lt_irrefl _ this
    · exact ih

/-! ## Cycles -/

theorem le_of_reflTransGen {a b : NodeId}
    (hab : Relation.ReflTransGen (fun p c => c ∈ t.children p) a b) : a ≤ b := by
  induction hab with
  | refl => exact Nat.le_refl a
  | tail _ hbc ih => exact Nat.le_trans ih (h.le_of_mem_children hbc)

/-- A way down the child lists that comes back to its start has not left it. -/
theorem eq_of_cycle {a b : NodeId} (hb : b ∈ t.children a)
    (hback : Relation.ReflTransGen (fun p c => c ∈ t.children p) b a) : b = a :=
  Nat.le_antisymm (h.le_of_reflTransGen hback) (h.le_of_mem_children hb)

end Pushed

/-! ## Turns -/

section Turns

variable {α : Type} (find : Node → Option α)

/-- A turn at a leaf takes it off the stack. A number without a node counts as a leaf that gives
nothing. -/
theorem turn_leaf {id : NodeId} (hleaf : t.children id = []) (stack : List NodeId)
    (found : Array α) :
    (t.turn find ⟨id :: stack, found⟩).stack = stack ∧
      (t.turn find ⟨id :: stack, found⟩).found.toList =
        found.toList ++ ((t.node? id).bind find).toList := by
  simp only [turn]
  cases hn : t.node? id with
  | none => simp
  | some n =>
    have hchildren : n.children = [] := (children_of_node? hn).symm.trans hleaf
    cases hfind : find n <;> simp [hchildren, hfind]

/-- A turn at any other node puts its children in its place. -/
theorem turn_inner {id : NodeId} (hinner : t.children id ≠ []) (stack : List NodeId)
    (found : Array α) :
    t.turn find ⟨id :: stack, found⟩ = ⟨t.children id ++ stack, found⟩ := by
  simp only [turn]
  cases hn : t.node? id with
  | none => exact absurd (children_eq_nil hn) hinner
  | some n =>
    rw [children_of_node? hn] at hinner ⊢
    simp only [List.isEmpty_iff, if_neg hinner, pushAll_reverse]

theorem stack_turn (id : NodeId) (stack : List NodeId) (found : Array α) :
    (t.turn find ⟨id :: stack, found⟩).stack = t.children id ++ stack := by
  by_cases hleaf : t.children id = []
  · rw [(turn_leaf find hleaf stack found).1, hleaf, List.nil_append]
  · rw [turn_inner find hleaf]

theorem walk_of_stack_eq_nil (turns : Nat) {w : Walk α} (hw : w.stack = []) :
    t.walk find turns w = w := by
  cases turns with
  | zero => rfl
  | succ turns =>
    rw [walk, if_pos]
    rw [hw]
    rfl

theorem walk_succ_cons (turns : Nat) (id : NodeId) (stack : List NodeId) (found : Array α) :
    t.walk find (turns + 1) ⟨id :: stack, found⟩ =
      t.walk find turns (t.turn find ⟨id :: stack, found⟩) := rfl

/-- A walk never gets rid of a node that is its own child. -/
theorem mem_stack_walk {id : NodeId} (hself : id ∈ t.children id) (turns : Nat) {w : Walk α}
    (hw : id ∈ w.stack) : id ∈ (t.walk find turns w).stack := by
  induction turns generalizing w with
  | zero => exact hw
  | succ turns ih =>
    obtain ⟨_ | ⟨top, stack⟩, found⟩ := w
    · cases hw
    · rw [walk_succ_cons]
      refine ih ?_
      rw [stack_turn]
      rcases List.mem_cons.1 hw with rfl | hw
      · exact List.mem_append_left _ hself
      · exact List.mem_append_right _ hw

end Turns

/-! ## Walks end -/

/-- Where a walk from `start` stands after it took the nodes `seen` off its stack: these and the
nodes on the stack are different ones, none comes before `start`, and each other than `start` hangs
below one that was seen. -/
structure Underway (t : TokenTree) (start : NodeId) (seen stack : List NodeId) : Prop where
  nodup : (seen ++ stack).Nodup
  bounds : ∀ x ∈ seen ++ stack, start ≤ x ∧ x < t.size
  hangs : ∀ x ∈ seen ++ stack, x = start ∨ ∃ p ∈ seen, x ∈ t.children p

namespace Underway

variable {start : NodeId} {seen stack : List NodeId}

theorem start_of_lt (h : start < t.size) : t.Underway start [] [start] where
  nodup := List.nodup_singleton start
  bounds x hx := by
    rw [List.mem_singleton.1 hx]
    exact ⟨Nat.le_refl start, h⟩
  hangs x hx := .inl (List.mem_singleton.1 hx)

theorem length_le (h : t.Underway start seen stack) : seen.length + stack.length ≤ t.size := by
  have hsub : seen ++ stack ⊆ List.range t.size := fun x hx => List.mem_range.2 (h.bounds x hx).2
  simpa using (List.subperm_of_subset h.nodup hsub).length_le

variable (ht : t.Pushed) (hself : start ∉ t.children start) {id : NodeId}
  (h : t.Underway start seen (id :: stack))

include ht hself h

/-- The children of the next node were neither seen, nor are they on the stack: one that was would
hang below a node that was seen as well, and it hangs below the next node alone. -/
theorem not_mem_of_mem_children {c : NodeId} (hc : c ∈ t.children id) :
    c ∉ seen ++ id :: stack := by
  have hid : id ∈ seen ++ id :: stack := List.mem_append_right seen List.mem_cons_self
  intro hmem
  rcases h.hangs c hmem with rfl | ⟨p, hp, hcp⟩
  · have hle := ht.le_of_mem_children hc
    obtain rfl : id = c := Nat.le_antisymm hle (h.bounds id hid).1
    exact hself hc
  · have hpid : p = id :=
      Option.some.inj ((ht.parent_of_mem_children hcp).symm.trans (ht.parent_of_mem_children hc))
    exact (List.nodup_append.1 h.nodup).2.2 p hp id List.mem_cons_self hpid

theorem turn : t.Underway start (id :: seen) (t.children id ++ stack) := by
  have hid : id ∈ seen ++ id :: stack := List.mem_append_right seen List.mem_cons_self
  have hperm : (id :: seen ++ (t.children id ++ stack)).Perm
      (t.children id ++ (seen ++ id :: stack)) := by
    refine (List.perm_append_comm_assoc (id :: seen) (t.children id) stack).trans ?_
    exact List.Perm.append_left (t.children id) List.perm_middle.symm
  have hmem : ∀ x ∈ id :: seen ++ (t.children id ++ stack),
      x ∈ t.children id ∨ x ∈ seen ++ id :: stack :=
    fun x hx => List.mem_append.1 (hperm.mem_iff.1 hx)
  refine ⟨hperm.nodup_iff.2 ?_, fun x hx => ?_, fun x hx => ?_⟩
  · refine List.nodup_append.2 ⟨ht.nodup_children id, h.nodup, fun c hc c' hc' hcc => ?_⟩
    exact not_mem_of_mem_children ht hself h hc (hcc ▸ hc')
  · rcases hmem x hx with hx | hx
    · exact ⟨Nat.le_trans (h.bounds id hid).1 (ht.le_of_mem_children hx),
        ht.lt_size_of_mem_children hx⟩
    · exact h.bounds x hx
  · rcases hmem x hx with hx | hx
    · exact .inr ⟨id, List.mem_cons_self, hx⟩
    · exact (h.hangs x hx).imp_right fun ⟨p, hp, hxp⟩ => ⟨p, List.mem_cons_of_mem id hp, hxp⟩

end Underway

section Ends

variable (ht : t.Pushed) {start : NodeId} (hself : start ∉ t.children start) {α : Type}
  (find : Node → Option α)

include ht hself

/-- A walk ends once its turns and the nodes that it saw make up all nodes of the tree. -/
theorem Underway.walk_over {seen : List NodeId} (turns : Nat) {w : Walk α}
    (h : t.Underway start seen w.stack) (hturns : t.size ≤ seen.length + turns) :
    (t.walk find turns w).stack = [] := by
  induction turns generalizing seen w with
  | zero =>
    have hlength := h.length_le
    exact List.length_eq_zero_iff.1 (show w.stack.length = 0 by omega)
  | succ turns ih =>
    obtain ⟨_ | ⟨id, stack⟩, found⟩ := w
    · rw [walk_of_stack_eq_nil find _ rfl]
    · have hturn : t.Underway start (id :: seen) (t.turn find ⟨id :: stack, found⟩).stack := by
        rw [stack_turn]
        exact h.turn ht hself
      rw [walk_succ_cons]
      refine ih hturn ?_
      rw [List.length_cons]
      omega

/-- **Walks end.** From a node that is not its own child a walk is over within a turn for each node
of the tree. -/
theorem walk_over (hstart : start < t.size) : (t.walk find t.size ⟨[start], #[]⟩).stack = [] :=
  (Underway.start_of_lt hstart).walk_over ht hself find t.size (Nat.le_add_left _ _)

end Ends

/-- A walk from a node ends exactly if the node is not its own child. -/
theorem exists_walk_over_iff (ht : t.Pushed) {start : NodeId} (hstart : start < t.size) {α : Type}
    (find : Node → Option α) :
    (∃ turns, (t.walk find turns ⟨[start], #[]⟩).stack = []) ↔ start ∉ t.children start := by
  constructor
  · rintro ⟨turns, hturns⟩ hself
    have hmem := mem_stack_walk find hself turns (w := ⟨[start], #[]⟩) List.mem_cons_self
    rw [hturns] at hmem
    cases hmem
  · intro hself
    exact ⟨t.size, walk_over ht hself find hstart⟩

end GlyphFold.TokenTree
