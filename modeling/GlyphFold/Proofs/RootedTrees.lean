import Mathlib.Data.List.Basic
import Mathlib.Data.List.Induction
import Mathlib.Data.List.Perm.Basic
import GlyphFold.Proofs.TreeWalk

/-!
# Rooted trees

A tree is built by a sequence of pushes, each under the root or under a number that an earlier push
gave. It keeps its links twice over, upward in the parents and downward in the child lists, and one
push updates both. The two always describe the same tree, which hangs together at the root.

1. `pushEach`: what the pushes of a sequence leave in the parents (`parent?_pushEach`) and in the
   child lists (`children_pushEach`)
2. `Grown.mem_children_iff`, `Grown.exists_parent`: in a grown tree the two agree, and every node
   but the root has a parent
3. `Grown.reaches_root`: the way up from any node ends at the root, by induction on the number
4. `Grown.mem_nodesBelow_iff`, `Grown.nodesBelow_root_perm`: the way down from the root comes to
   every node once
5. `visited_eq_take`: a walk takes the nodes off its stack in that order
6. `pushEach_rooted`: all of it, for any sequence of pushes
-/

namespace GlyphFold.TokenTree

/-! ## Sequences of pushes -/

/-- A push, as a value. -/
structure Push where
  parent : NodeId
  kind : String
  range : Span
  deriving DecidableEq, Repr

/-- The tree after some pushes. -/
def pushEach (t : TokenTree) (pushes : List Push) : TokenTree :=
  pushes.foldl (fun t p => t.push p.parent p.kind p.range) t

/-- Each push is under the root or under a number that an earlier push gave: the pushes give the
numbers from 1 on, in their order. -/
def Rooted (pushes : List Push) : Prop :=
  ∀ (i : Nat) (hi : i < pushes.length), (pushes[i]).parent ≤ i

instance (pushes : List Push) : Decidable (Rooted pushes) := Nat.decidableBallLT _ _

theorem Rooted.of_append {pushes later : List Push} (h : Rooted (pushes ++ later)) :
    Rooted pushes := by
  intro i hi
  have hparent := h i (by rw [List.length_append]; omega)
  rwa [List.getElem_append_left hi] at hparent

theorem Rooted.last_le {pushes : List Push} {p : Push} (h : Rooted (pushes ++ [p])) :
    p.parent ≤ pushes.length := by
  have hparent := h pushes.length (by simp)
  rwa [List.getElem_concat_length rfl] at hparent

section PushEach

variable (source rootKind : String) (pushes : List Push)

theorem pushEach_concat (t : TokenTree) (p : Push) :
    t.pushEach (pushes ++ [p]) = (t.pushEach pushes).push p.parent p.kind p.range :=
  List.foldl_concat ..

theorem size_pushEach : ((ofSource source rootKind).pushEach pushes).size = pushes.length + 1 := by
  induction pushes using List.reverseRecOn with
  | nil => rfl
  | append_singleton pushes p ih =>
    rw [pushEach_concat, size_push, ih, List.length_append, List.length_singleton]

theorem grown_pushEach (h : Rooted pushes) :
    ((ofSource source rootKind).pushEach pushes).Grown := by
  induction pushes using List.reverseRecOn with
  | nil => exact .ofSource source rootKind
  | append_singleton pushes p ih =>
    rw [pushEach_concat]
    refine (ih h.of_append).push ?_ p.kind p.range
    rw [size_pushEach]
    exact Nat.lt_succ_of_le h.last_le

/-- The number of a node tells which push made it, and the node has the parent of that push. -/
theorem parent?_pushEach (i : Nat) :
    ((ofSource source rootKind).pushEach pushes).parent? (i + 1) = pushes[i]?.map Push.parent := by
  induction pushes using List.reverseRecOn with
  | nil => exact parent?_ofSource source rootKind (i + 1)
  | append_singleton pushes p ih =>
    rw [pushEach_concat, parent?_push, size_pushEach, ih]
    by_cases hi : i = pushes.length
    · subst hi
      rw [if_pos rfl, List.getElem?_concat_length, Option.map_some]
    · rw [if_neg fun e => hi (Nat.succ.inj e), List.getElem?_append]
      split
      · rfl
      · rw [List.getElem?_eq_none (by omega), List.getElem?_eq_none (by simp; omega)]

/-- A child list has the numbers of the pushes under its node, in the order of the pushes. -/
theorem children_pushEach (h : Rooted pushes) (id : NodeId) :
    ((ofSource source rootKind).pushEach pushes).children id =
      pushes.findIdxs (·.parent = id) 1 := by
  induction pushes using List.reverseRecOn with
  | nil => exact children_ofSource source rootKind id
  | append_singleton pushes p ih =>
    have hlast := h.last_le
    rw [pushEach_concat, children_push, size_pushEach, ih h.of_append, List.findIdxs_append]
    by_cases hid : id = p.parent
    · subst hid
      rw [if_pos ⟨rfl, Nat.le_succ_of_le hlast⟩]
      simp [Nat.add_comm]
    · rw [if_neg fun hp => hid hp.1]
      simp [Ne.symm hid]

end PushEach

/-! ## Grown trees -/

namespace Grown

variable {t : TokenTree} (h : t.Grown)

include h

/-- Upward and downward links agree. -/
theorem mem_children_iff {id c : NodeId} : c ∈ t.children id ↔ t.parent? c = some id := by
  rw [h.pushed.mem_children_iff]
  exact and_iff_left_of_imp fun hc => Nat.le_of_lt (h.parent_lt hc)

theorem exists_parent {c : NodeId} (hpos : 0 < c) (hc : c < t.size) :
    ∃ p < c, t.parent? c = some p := by
  induction h with
  | ofSource source rootKind =>
    rw [size_ofSource] at hc
    exact absurd hpos (Nat.not_lt.2 (Nat.le_of_lt_succ hc))
  | @push t _ parent hparent kind range ih =>
    rw [size_push] at hc
    rw [parent?_push]
    by_cases hnew : c = t.size
    · exact ⟨parent, hnew ▸ hparent, if_pos hnew⟩
    · rw [if_neg hnew]
      exact ih (Nat.lt_of_le_of_ne (Nat.le_of_lt_succ hc) hnew)

/-- A node other than the root is in one child list, once. -/
theorem exists_count_eq_one {c : NodeId} (hpos : 0 < c) (hc : c < t.size) :
    ∃ p, (t.children p).count c = 1 ∧ ∀ q, q ≠ p → c ∉ t.children q := by
  obtain ⟨p, -, hp⟩ := h.exists_parent hpos hc
  refine ⟨p, List.count_eq_one_of_mem (h.nodup_children p) (h.mem_children_iff.2 hp), ?_⟩
  intro q hne hq
  exact hne (Option.some.inj ((h.mem_children_iff.1 hq).symm.trans hp))

theorem root_not_mem_children (id : NodeId) : 0 ∉ t.children id := fun h0 =>
  Nat.not_lt_zero id (h.lt_of_mem_children h0).1

/-! ## The way up -/

/-- Parents have smaller numbers, so that the way up comes to the root, which has none. -/
theorem reaches_root {id : NodeId} (hid : id < t.size) :
    Relation.ReflTransGen (fun c p => t.parent? c = some p) id 0 := by
  induction id using Nat.strongRecOn with
  | ind id ih =>
    rcases Nat.eq_zero_or_pos id with rfl | hpos
    · exact .refl
    · obtain ⟨p, hlt, hp⟩ := h.exists_parent hpos hid
      exact .head hp (ih p hlt (Nat.lt_trans hlt hid))

/-- The way up, walked down. -/
theorem reachable_from_root {id : NodeId} (hid : id < t.size) :
    Relation.ReflTransGen (fun p c => c ∈ t.children p) 0 id := by
  have hup := Relation.reflTransGen_swap.2 (h.reaches_root hid)
  exact Relation.ReflTransGen.mono (fun p c hpc => h.mem_children_iff.2 hpc) 0 id hup

/-! ## The way down -/

omit h in
/-- Below a node lies what can be reached from it down the child lists. -/
theorem mem_nodesBelow_iff (h : t.Grown) {id x : NodeId} :
    x ∈ h.nodesBelow id ↔ Relation.ReflTransGen (fun p c => c ∈ t.children p) id x := by
  constructor
  · intro hx
    induction id using h.children_induction with
    | step id ih =>
      rcases h.mem_nodesBelow.1 hx with rfl | ⟨c, hc, hx⟩
      · exact .refl
      · exact .head hc (ih c hc hx)
  · intro hx
    induction hx using Relation.ReflTransGen.head_induction_on with
    | refl => exact h.mem_nodesBelow.2 (.inl rfl)
    | head hc _ ih => exact h.mem_nodesBelow.2 (.inr ⟨_, hc, ih⟩)

omit h in
/-- The way down from the root comes to every node once. -/
theorem nodesBelow_root_perm (h : t.Grown) : (h.nodesBelow 0).Perm (List.range t.size) := by
  have hroot : 0 < t.size := h.pushed.size_pos
  refine (List.perm_ext_iff_of_nodup (h.nodup_nodesBelow 0 hroot) List.nodup_range).2 fun x => ?_
  rw [List.mem_range]
  constructor
  · intro hx
    exact (h.bounds_of_mem_nodesBelow hroot hx).2
  · intro hx
    exact h.mem_nodesBelow_iff.2 (h.reachable_from_root hx)

end Grown

/-! ## Walks -/

/-- The nodes that a walk takes off its stack, turn by turn. -/
def visited {α : Type} (t : TokenTree) (find : Node → Option α) :
    (turns : Nat) → Walk α → List NodeId
  | 0, _ => []
  | turns + 1, w =>
    match w.stack with
    | [] => []
    | id :: _ => id :: visited t find turns (t.turn find w)

/-- A walk visits each node before those below it, from the top of its stack to the bottom. -/
theorem visited_eq_take {t : TokenTree} (h : t.Grown) {α : Type} (find : Node → Option α)
    (turns : Nat) (w : Walk α) :
    t.visited find turns w = (w.stack.flatMap h.nodesBelow).take turns := by
  induction turns generalizing w with
  | zero => rfl
  | succ turns ih =>
    obtain ⟨_ | ⟨id, stack⟩, found⟩ := w
    · rfl
    · show id :: t.visited find turns _ = ((id :: stack).flatMap h.nodesBelow).take (turns + 1)
      rw [ih, stack_turn, List.flatMap_cons, List.flatMap_append, h.nodesBelow_eq id,
        List.cons_append, List.take_succ_cons]

/-- A walk from the root visits every node. -/
theorem visited_root {t : TokenTree} (h : t.Grown) {α : Type} (find : Node → Option α) :
    t.visited find t.size ⟨[0], #[]⟩ = h.nodesBelow 0 := by
  have hlength : (h.nodesBelow 0).length = t.size := by
    rw [h.nodesBelow_root_perm.length_eq, List.length_range]
  rw [visited_eq_take h, List.flatMap_singleton, ← hlength, List.take_length]

/-- **Pushes build one rooted tree.** After any pushes, each under the root or under a number that
an earlier push gave, the nodes are numbered in the order of the pushes, and each has the parent that
it was pushed under. A node is in the child list of its parent, once, and in no other list; the root
is in none. The child lists are in the order of the pushes. From every node the parents lead to the
root, and a walk down from the root visits every node once. -/
theorem pushEach_rooted (source rootKind : String) {pushes : List Push} (h : Rooted pushes) :
    let t := (ofSource source rootKind).pushEach pushes
    (t.size = pushes.length + 1 ∧ t.parent? 0 = none ∧
      ∀ i, t.parent? (i + 1) = pushes[i]?.map Push.parent) ∧
    (∀ p c, c ∈ t.children p ↔ t.parent? c = some p) ∧
    (∀ p, 0 ∉ t.children p) ∧
    (∀ c, 0 < c → c < t.size →
      ∃ p, (t.children p).count c = 1 ∧ ∀ q, q ≠ p → c ∉ t.children q) ∧
    (∀ p, t.children p = pushes.findIdxs (·.parent = p) 1) ∧
    (∀ id < t.size, Relation.ReflTransGen (fun c p => t.parent? c = some p) id 0) ∧
    ∃ ht : t.Grown, (ht.nodesBelow 0).Perm (List.range t.size) ∧
      ∀ (α : Type) (find : Node → Option α),
        t.visited find t.size ⟨[0], #[]⟩ = ht.nodesBelow 0 := by
  intro t
  have ht : t.Grown := grown_pushEach source rootKind pushes h
  have hroot : t.parent? 0 = none := by
    refine Option.eq_none_iff_forall_ne_some.2 fun p hp => ?_
    exact Nat.not_lt_zero p (ht.parent_lt hp)
  refine ⟨⟨size_pushEach source rootKind pushes, hroot, parent?_pushEach source rootKind pushes⟩,
    fun p c => ht.mem_children_iff, ht.root_not_mem_children,
    fun c hpos hc => ht.exists_count_eq_one hpos hc,
    children_pushEach source rootKind pushes h, fun id hid => ht.reaches_root hid, ht,
    ht.nodesBelow_root_perm, fun α find => visited_root ht find⟩

/-- The pushes of a sum of a product, whose operators are pushed after their operands. -/
def sumPushes : List Push :=
  [⟨0, "binary_operator", ⟨0, 5⟩⟩, ⟨1, "identifier", ⟨0, 1⟩⟩, ⟨1, "binary_operator", ⟨2, 5⟩⟩,
    ⟨3, "identifier", ⟨2, 3⟩⟩, ⟨3, "identifier", ⟨4, 5⟩⟩, ⟨1, "+", ⟨1, 2⟩⟩, ⟨3, "*", ⟨3, 4⟩⟩]

/-- The operators come last in the child lists, and the way up from each node ends at the root. -/
theorem pushEach_sumPushes :
    let t := (ofSource "a+b*c" "module").pushEach sumPushes
    Rooted sumPushes ∧ t.children 1 = [2, 3, 6] ∧ t.children 3 = [4, 5, 7] ∧
      (∀ id < 8, Relation.ReflTransGen (fun c p => t.parent? c = some p) id 0) ∧
      ∃ ht : t.Grown, ht.nodesBelow 0 = [0, 1, 2, 3, 4, 5, 7, 6] := by
  intro t
  have hrooted : Rooted sumPushes := by decide
  obtain ⟨⟨hsize, -⟩, -, -, -, hchildren, hup, ht, -, hvisited⟩ :=
    pushEach_rooted "a+b*c" "module" hrooted
  refine ⟨hrooted, (hchildren 1).trans (by decide), (hchildren 3).trans (by decide), ?_, ht, ?_⟩
  · intro id hid
    exact hup id (hsize ▸ hid)
  · rw [← hvisited Unit fun _ => none]
    decide

end GlyphFold.TokenTree
