import Mathlib.Data.List.Induction
import GlyphFold.Proofs.TableInvariant

/-!
# Tables and their histories

What a table shows is a function of the edits that made it, said here without the table.

1. The last edit of a source decides what is found under it (`recorded`, `find?_run`).
2. `lastOnset` is the last step in which a property came to hold. A list that in each step keeps what
   still has the property and then takes what comes to have it is in the order of last onsets
   (`pairwise_lastOnset_succ`).
3. `run_history`: lookups, results of edits, and both orders of the listing after every run.
-/

namespace GlyphFold.Table

open Listing (sourcesIn)

/-! ## What was last recorded -/

/-- What a run of edits leaves under a source: the last edit of the source decides. -/
def recorded (edits : List Edit) (source : String) : Option Mapping :=
  (edits.reverse.find? fun e => e.source = source).bind Edit.outcome

theorem recorded_append_singleton (edits : List Edit) (e : Edit) (source : String) :
    recorded (edits ++ [e]) source =
      if source = e.source then e.outcome else recorded edits source := by
  unfold recorded
  rw [List.reverse_concat, List.find?_cons]
  by_cases hs : source = e.source
  · simp [hs]
  · simp [hs, Ne.symm hs]

theorem find?_run (edits : List Edit) (source : String) :
    (empty.run edits).find? source = recorded edits source := by
  induction edits using List.reverseRecOn with
  | nil => exact find?_empty source
  | append_singleton edits e ih =>
    rw [run_append, recorded_append_singleton, ← ih]
    exact find?_apply (consistent_run edits) e source

theorem recorded_eq_some_iff {edits : List Edit} {source : String} {m : Mapping} :
    recorded edits source = some m ↔ source ≠ "" ∧ m.source = source ∧
      ∃ earlier later, edits = earlier ++ .upsert m :: later ∧ ∀ e ∈ later, e.source ≠ source := by
  unfold recorded
  rw [Option.bind_eq_some_iff]
  constructor
  · rintro ⟨e, he, hm⟩
    obtain ⟨rfl, hne⟩ := Edit.outcome_eq_some_iff.1 hm
    obtain ⟨hs, later, earlier, hsplit, hlater⟩ := List.find?_eq_some_iff_append.1 he
    have hs : m.source = source := of_decide_eq_true hs
    refine ⟨hs ▸ hne, hs, earlier.reverse, later.reverse, ?_, fun e he => ?_⟩
    · rw [← List.reverse_reverse edits, hsplit]
      simp
    · simpa using hlater e (List.mem_reverse.1 he)
  · rintro ⟨hne, rfl, earlier, later, rfl, hlater⟩
    refine ⟨.upsert m, List.find?_eq_some_iff_append.2 ⟨decide_eq_true rfl, later.reverse,
      earlier.reverse, by simp, fun e he => ?_⟩, Edit.outcome_eq_some_iff.2 ⟨rfl, hne⟩⟩
    simpa using hlater e (List.mem_reverse.1 he)

theorem exists_edit_of_recorded {edits : List Edit} {source : String} {m : Mapping}
    (h : recorded edits source = some m) : ∃ e ∈ edits, e.source = source := by
  obtain ⟨-, hs, earlier, later, rfl, -⟩ := recorded_eq_some_iff.1 h
  exact ⟨.upsert m, by simp, hs⟩

/-! ## Onsets -/

/-- The last step below `n` in which a property came to hold; step `k` leads from `k` to `k + 1`. -/
def lastOnset (p : Nat → Bool) : Nat → Nat
  | 0 => 0
  | n + 1 => if !p n && p (n + 1) then n else lastOnset p n

theorem lastOnset_succ_of_onset {p : Nat → Bool} {n : Nat} (h : p n = false)
    (h' : p (n + 1) = true) :
    lastOnset p (n + 1) = n := by
  rw [lastOnset, h, h']
  rfl

theorem lastOnset_succ_of_holds {p : Nat → Bool} {n : Nat} (h : p n = true) :
    lastOnset p (n + 1) = lastOnset p n := by
  rw [lastOnset, h]
  rfl

theorem lastOnset_lt {p : Nat → Bool} (h0 : p 0 = false) {n : Nat} (hn : p n = true) :
    lastOnset p n < n := by
  induction n with
  | zero => exact absurd hn (by simp [h0])
  | succ n ih =>
    cases h : p n with
    | false => rw [lastOnset_succ_of_onset h hn]; exact Nat.lt_succ_self n
    | true => rw [lastOnset_succ_of_holds h]; exact Nat.lt_succ_of_lt (ih h)

/-- **Onset order is kept.** A list in the order of last onsets stays so when a step drops what loses
the property and adds at the end the one thing, if any, that comes to have it. -/
theorem pairwise_lastOnset_succ {α : Type} {p : α → Nat → Bool} (h0 : ∀ a, p a 0 = false) {n : Nat}
    {l new : List α} (hl : l.Pairwise fun a b => lastOnset (p a) n < lastOnset (p b) n)
    (hold : ∀ a ∈ l, p a n = true) (hnew : ∀ a ∈ new, p a n = false ∧ p a (n + 1) = true)
    (hone : new.length ≤ 1) (stays : α → Bool) :
    (l.filter stays ++ new).Pairwise
      fun a b => lastOnset (p a) (n + 1) < lastOnset (p b) (n + 1) := by
  have hsame : ∀ a ∈ l.filter stays, lastOnset (p a) (n + 1) = lastOnset (p a) n := fun a ha =>
    lastOnset_succ_of_holds (hold a (List.mem_of_mem_filter ha))
  refine List.pairwise_append.2 ⟨?_, ?_, fun a ha b hb => ?_⟩
  · refine (hl.filter stays).imp_of_mem fun {a b} ha hb hab => ?_
    rwa [hsame a ha, hsame b hb]
  · match new, hone with
    | [], _ => exact .nil
    | [a], _ => exact List.pairwise_singleton _ a
  · rw [hsame a ha, lastOnset_succ_of_onset (hnew b hb).1 (hnew b hb).2]
    exact lastOnset_lt (h0 a) (hold a (List.mem_of_mem_filter ha))

/-! ## Sources and categories in time -/

/-- After `k` edits the source has a mapping of the category. -/
def belongs (edits : List Edit) (category source : String) (k : Nat) : Bool :=
  (recorded (edits.take k) source).map Mapping.category = some category

/-- After `k` edits some source has a mapping of the category. -/
def isUsed (edits : List Edit) (category : String) (k : Nat) : Bool :=
  (edits.take k).any fun e => belongs edits category e.source k

section Steps

variable (edits : List Edit)

theorem belongs_zero (category source : String) : belongs edits category source 0 = false := rfl

theorem isUsed_zero (category : String) : isUsed edits category 0 = false := rfl

theorem belongs_iff (category source : String) (k : Nat) :
    belongs edits category source k = true ↔
      source ∈ sourcesIn category (empty.run (edits.take k)).order := by
  rw [(consistent_run _).mem_sourcesIn]
  unfold belongs category?
  rw [find?_run, decide_eq_true_iff]

theorem isUsed_iff (category : String) (k : Nat) :
    isUsed edits category k = true ↔ category ∈ (empty.run (edits.take k)).categories := by
  unfold isUsed
  rw [mem_categories (consistent_run _), List.any_eq_true]
  constructor
  · rintro ⟨e, -, he⟩
    exact List.ne_nil_of_mem ((belongs_iff edits category e.source k).1 he)
  · intro hne
    obtain ⟨s, hs⟩ := List.exists_mem_of_ne_nil _ hne
    have hb := (belongs_iff edits category s k).2 hs
    obtain ⟨m, hm, -⟩ := Option.map_eq_some_iff.1 (of_decide_eq_true hb)
    obtain ⟨e, he, rfl⟩ := exists_edit_of_recorded hm
    exact ⟨e, he, hb⟩

theorem run_take_succ {k : Nat} (hk : k < edits.length) :
    empty.run (edits.take (k + 1)) = (empty.run (edits.take k)).apply edits[k] := by
  rw [List.take_succ_eq_append_getElem hk, run_append]
  rfl

theorem pairwise_sourcesIn (category : String) {k : Nat} (hk : k ≤ edits.length) :
    (sourcesIn category (empty.run (edits.take k)).order).Pairwise fun s s' =>
      lastOnset (belongs edits category s) k < lastOnset (belongs edits category s') k := by
  induction k with
  | zero => exact .nil
  | succ k ih =>
    have hstep := sourcesIn_apply (consistent_run (edits.take k)) edits[k] category
    rw [← run_take_succ edits hk] at hstep
    rw [hstep]
    refine pairwise_lastOnset_succ (belongs_zero edits category) (ih (Nat.le_of_succ_le hk))
      (fun s hs => (belongs_iff edits category s k).2 hs) (fun s hs => ⟨?_, ?_⟩) ?_ _
    · rw [← Bool.not_eq_true, belongs_iff, (consistent_run _).mem_sourcesIn]
      split at hs
      · next h => rw [List.mem_singleton.1 hs]; exact h.1
      · cases hs
    · rw [belongs_iff, hstep]
      exact List.mem_append_right _ hs
    · split <;> simp

theorem pairwise_categories {k : Nat} (hk : k ≤ edits.length) :
    (empty.run (edits.take k)).categories.Pairwise fun c c' =>
      lastOnset (isUsed edits c) k < lastOnset (isUsed edits c') k := by
  induction k with
  | zero => exact .nil
  | succ k ih =>
    have hstep := categories_apply (consistent_run (edits.take k)) edits[k]
    rw [← run_take_succ edits hk] at hstep
    rw [hstep]
    refine pairwise_lastOnset_succ (isUsed_zero edits) (ih (Nat.le_of_succ_le hk))
      (fun c hc => (isUsed_iff edits c k).2 hc) (fun c hc => ⟨?_, ?_⟩) ?_ _
    · obtain ⟨-, hn⟩ := Option.mem_filter_iff.1 (Option.mem_toList.1 hc)
      rw [← Bool.not_eq_true, isUsed_iff]
      exact of_decide_eq_true hn
    · rw [isUsed_iff, hstep]
      exact List.mem_append_right _ hc
    · cases Option.filter _ _ <;> simp

/-! ## Histories -/

/-- An edit gives back what was found under its source, and an edit of the blank source does
nothing. -/
theorem result_run (e : Edit) :
    (empty.run edits).result e = (empty.run edits).find? e.source ∧
      (e.source = "" → (empty.run edits).result e = none ∧
        (empty.run edits).apply e = empty.run edits) := by
  have hblank := (consistent_run edits).find?_blank
  cases e with
  | upsert m =>
    show (upsert _ m).1 = find? _ m.source ∧
      (m.source = "" → (upsert _ m).1 = _ ∧ (upsert _ m).2 = _)
    unfold upsert
    by_cases hm : m.source = ""
    · rw [if_pos hm, hm]
      exact ⟨hblank.symm, fun _ => ⟨rfl, rfl⟩⟩
    · rw [if_neg hm]
      exact ⟨rfl, fun h => absurd h hm⟩
  | remove s =>
    show (remove _ s).1 = find? _ s ∧ (s = "" → (remove _ s).1 = _ ∧ (remove _ s).2 = _)
    unfold remove
    refine ⟨?_, ?_⟩
    · cases (empty.run edits).find? s <;> rfl
    · rintro rfl
      rw [hblank]
      exact ⟨rfl, rfl⟩

theorem mem_entriesIn_run (c : String) (m : Mapping) :
    m ∈ (empty.run edits).entriesIn c ↔
      (empty.run edits).find? m.source = some m ∧ m.category = c := by
  have h := consistent_run edits
  unfold entriesIn
  rw [List.mem_filterMap]
  constructor
  · rintro ⟨s, hs, hm⟩
    have hc := (h.mem_sourcesIn c s).1 hs
    unfold category? at hc
    rw [hm] at hc
    exact ⟨by rwa [h.source_of_find? s m hm], Option.some.inj hc⟩
  · rintro ⟨hm, hc⟩
    exact ⟨m.source, (h.mem_sourcesIn c _).2 (Option.map_eq_some_iff.2 ⟨m, hm, hc⟩), hm⟩

theorem map_source_entriesIn_run (c : String) :
    ((empty.run edits).entriesIn c).map Mapping.source = sourcesIn c (empty.run edits).order := by
  have h := consistent_run edits
  refine map_source_filterMap h fun s hs => ?_
  obtain ⟨m, hm, -⟩ := Option.map_eq_some_iff.1 ((h.mem_sourcesIn c s).1 hs)
  exact ⟨m, hm⟩

end Steps

/-- **Histories.** After any run of edits a source has the mapping that was last put under it and not
removed since. Every edit of the run gave back what was found under its source just before; an edit
of the blank source gave nothing and changed nothing. A category lists its mappings by the steps in
which they last entered it, and the categories with mappings are listed by the steps in which they
last got a first one. -/
theorem run_history (edits : List Edit) :
    let t := empty.run edits
    (∀ s m, t.find? s = some m ↔ s ≠ "" ∧ m.source = s ∧
      ∃ earlier later, edits = earlier ++ .upsert m :: later ∧ ∀ e ∈ later, e.source ≠ s) ∧
    (∀ earlier e later, edits = earlier ++ e :: later →
      (empty.run earlier).result e = (empty.run earlier).find? e.source ∧
        (e.source = "" → (empty.run earlier).result e = none ∧
          (empty.run earlier).apply e = empty.run earlier)) ∧
    (∀ c m, m ∈ t.entriesIn c ↔ t.find? m.source = some m ∧ m.category = c) ∧
    (∀ c, (t.entriesIn c).Pairwise fun m m' =>
      lastOnset (belongs edits c m.source) edits.length <
        lastOnset (belongs edits c m'.source) edits.length) ∧
    (∀ c, c ∈ t.categories ↔ ∃ m, t.find? m.source = some m ∧ m.category = c) ∧
    t.categories.Pairwise fun c c' =>
      lastOnset (isUsed edits c) edits.length < lastOnset (isUsed edits c') edits.length := by
  intro t
  have h : t.Consistent := consistent_run edits
  refine ⟨fun s m => ?_, fun earlier e later _ => result_run earlier e, mem_entriesIn_run edits,
    fun c => ?_, fun c => ?_, ?_⟩
  · rw [find?_run, recorded_eq_some_iff]
  · have hp := pairwise_sourcesIn edits c (Nat.le_refl _)
    rw [List.take_length, ← map_source_entriesIn_run, List.pairwise_map] at hp
    exact hp
  · rw [mem_categories h]
    constructor
    · intro hne
      obtain ⟨s, hs⟩ := List.exists_mem_of_ne_nil _ hne
      obtain ⟨m, hm, hc⟩ := Option.map_eq_some_iff.1 ((h.mem_sourcesIn c s).1 hs)
      exact ⟨m, by rwa [h.source_of_find? s m hm], hc⟩
    · rintro ⟨m, hm, hc⟩
      exact List.ne_nil_of_mem
        ((h.mem_sourcesIn c m.source).2 (Option.map_eq_some_iff.2 ⟨m, hm, hc⟩))
  · have hp := pairwise_categories edits (Nat.le_refl _)
    rwa [List.take_length] at hp

end GlyphFold.Table
