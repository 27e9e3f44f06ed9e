/-!
# Pools of workers

Workers share the items of a list: a free worker takes an item that waits, and when it is done with
it, it puts the result into the slot of the item. Which item is taken next and which one is done
first is left open.

1. `Pool.Step`, `Pool.Run`: what a pool can do, and how far it has come
2. `Run.steps_add`: every item takes two steps
3. `Run.collected_eq`: once nothing is left to do, the results are those of the items in their order
-/

namespace GlyphFold

/-- Workers on the items of a list, which go by their indices. -/
structure Pool (β : Type) where
  /-- The items that no worker has taken. -/
  waiting : List Nat
  /-- The items that workers are at. -/
  busy : List Nat
  /-- The results, each in the slot of its item. -/
  slots : List (Option β)

namespace Pool

variable {α β : Type} {workers : Nat} {f : α → β} {xs : List α}

def start (β : Type) (xs : List α) : Pool β where
  waiting := List.range xs.length
  busy := []
  slots := List.replicate xs.length none

/-- What comes out in the end. -/
def collected (p : Pool β) : List β := p.slots.filterMap id

/-- What a pool of so many workers can do next. -/
inductive Step (workers : Nat) (f : α → β) (xs : List α) : Pool β → Pool β → Prop where
  | take {p : Pool β} {i : Nat} (hwaiting : i ∈ p.waiting) (hfree : p.busy.length < workers) :
      Step workers f xs p { p with waiting := p.waiting.erase i, busy := i :: p.busy }
  | finish {p : Pool β} {i : Nat} {a : α} (hbusy : i ∈ p.busy) (hitem : xs[i]? = some a) :
      Step workers f xs p
        { p with busy := p.busy.erase i, slots := p.slots.set i (some (f a)) }

/-- What a pool can have come to after a number of steps. -/
inductive Run (workers : Nat) (f : α → β) (xs : List α) : Nat → Pool β → Prop where
  | start : Run workers f xs 0 (start β xs)
  | step {k : Nat} {p q : Pool β} (h : Run workers f xs k p) (hstep : Step workers f xs p q) :
      Run workers f xs (k + 1) q

/-- Nothing is left to do. -/
def Stopped (workers : Nat) (f : α → β) (xs : List α) (p : Pool β) : Prop :=
  ∀ q, ¬ Step workers f xs p q

/-! ## Steps -/

/-- Taking an item and finishing it are two steps. -/
theorem Run.steps_add {k : Nat} {p : Pool β} (h : Run workers f xs k p) :
    k + (2 * p.waiting.length + p.busy.length) = 2 * xs.length := by
  induction h with
  | start => simp [Pool.start]
  | step _ hstep ih =>
    cases hstep with
    | take hwaiting _ =>
      have hpos := List.length_pos_of_mem hwaiting
      simp only [List.length_erase_of_mem hwaiting, List.length_cons]
      omega
    | finish hbusy _ =>
      have hpos := List.length_pos_of_mem hbusy
      simp only [List.length_erase_of_mem hbusy]
      omega

theorem Run.exists_stopped {k : Nat} {p : Pool β} (h : Run workers f xs k p) :
    ∃ k q, Run workers f xs k q ∧ Stopped workers f xs q := by
  -- every step uses up one of those that are left
  induction hleft : 2 * p.waiting.length + p.busy.length using Nat.strongRecOn generalizing k p with
  | ind left ih =>
    by_cases hstopped : Stopped workers f xs p
    · exact ⟨k, p, h, hstopped⟩
    · obtain ⟨q, hstep⟩ := Classical.not_forall.1 hstopped
      have hq := h.step (Classical.not_not.1 hstep)
      have hp := h.steps_add
      have hsteps := hq.steps_add
      exact ih _ (by omega) hq rfl

/-! ## Results -/

/-- Every item waits, is worked on, or has its result in its slot. -/
structure Sound (f : α → β) (xs : List α) (p : Pool β) : Prop where
  waiting_lt : ∀ i ∈ p.waiting, i < xs.length
  busy_lt : ∀ i ∈ p.busy, i < xs.length
  length_slots : p.slots.length = xs.length
  filled : ∀ i a, xs[i]? = some a →
    i ∈ p.waiting ∨ i ∈ p.busy ∨ p.slots[i]? = some (some (f a))

theorem sound_start : Sound f xs (start β xs) where
  waiting_lt _ hi := List.mem_range.1 hi
  busy_lt _ hi := absurd hi List.not_mem_nil
  length_slots := List.length_replicate
  filled _ _ ha := .inl (List.mem_range.2 (List.getElem?_eq_some_iff.1 ha).1)

theorem Sound.step {p q : Pool β} (hp : Sound f xs p) (h : Step workers f xs p q) :
    Sound f xs q := by
  cases h with
  | @take i hwaiting _ =>
    refine ⟨fun j hj => hp.waiting_lt j (List.mem_of_mem_erase hj), ?_, hp.length_slots, ?_⟩
    · exact List.forall_mem_cons.2 ⟨hp.waiting_lt i hwaiting, hp.busy_lt⟩
    · intro j a ha
      rcases hp.filled j a ha with hj | hj | hj
      · by_cases hji : j = i
        · exact .inr (.inl (hji ▸ List.mem_cons_self))
        · exact .inl ((List.mem_erase_of_ne hji).2 hj)
      · exact .inr (.inl (List.mem_cons_of_mem i hj))
      · exact .inr (.inr hj)
  | @finish i b hbusy hitem =>
    refine ⟨hp.waiting_lt, fun j hj => hp.busy_lt j (List.mem_of_mem_erase hj), ?_, ?_⟩
    · rw [List.length_set, hp.length_slots]
    · intro j a ha
      by_cases hij : i = j
      · subst hij
        have hlt : i < p.slots.length := hp.length_slots ▸ hp.busy_lt i hbusy
        rw [ha, Option.some.injEq] at hitem
        rw [hitem]
        exact .inr (.inr (List.getElem?_set_self hlt))
      · rcases hp.filled j a ha with hj | hj | hj
        · exact .inl hj
        · exact .inr (.inl ((List.mem_erase_of_ne (Ne.symm hij)).2 hj))
        · exact .inr (.inr ((List.getElem?_set_ne hij).trans hj))

theorem Run.sound {k : Nat} {p : Pool β} (h : Run workers f xs k p) : Sound f xs p := by
  induction h with
  | start => exact sound_start
  | step _ hstep ih => exact ih.step hstep

/-- A pool stops only when no item waits and no worker is busy. -/
theorem Sound.idle_of_stopped {p : Pool β} (hp : Sound f xs p) (hworkers : 0 < workers)
    (h : Stopped workers f xs p) : p.waiting = [] ∧ p.busy = [] := by
  have hbusy : p.busy = [] := by
    refine List.eq_nil_iff_forall_not_mem.2 fun i hi => ?_
    exact h _ (.finish hi (List.getElem?_eq_getElem (hp.busy_lt i hi)))
  refine ⟨List.eq_nil_iff_forall_not_mem.2 fun i hi => ?_, hbusy⟩
  exact h _ (.take hi (by rwa [hbusy]))

/-- Whatever the workers did in which order, in the end the results stand as if one worker had gone
through the items. -/
theorem Run.collected_eq {k : Nat} {p : Pool β} (h : Run workers f xs k p)
    (hworkers : 0 < workers) (hstopped : Stopped workers f xs p) : p.collected = xs.map f := by
  obtain ⟨hwaiting, hbusy⟩ := h.sound.idle_of_stopped hworkers hstopped
  have hslots : p.slots = xs.map fun a => some (f a) := by
    refine List.ext_getElem? fun i => ?_
    rw [List.getElem?_map]
    cases ha : xs[i]? with
    | none =>
      rw [Option.map_none, List.getElem?_eq_none_iff, h.sound.length_slots]
      exact List.getElem?_eq_none_iff.1 ha
    | some a =>
      have hfilled := h.sound.filled i a ha
      rw [hwaiting, hbusy] at hfilled
      simpa using hfilled
  rw [collected, hslots, List.filterMap_map]
  show xs.filterMap (some ∘ f) = xs.map f
  rw [List.filterMap_eq_map]

end Pool

end GlyphFold
