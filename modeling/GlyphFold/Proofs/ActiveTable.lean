import Mathlib.Data.List.Induction
import GlyphFold.Proofs.TableInvariant
import GlyphFold.Resolver

/-!
# The active table of a resolver

A resolver keeps a table, the pattern made of it and the predicates that its conditions need. The
three stay in step however often the table is exchanged.

1. `Misses`: a table uses a condition without a predicate. Those tables are no good, and no others
   (`validate_eq_ok_iff`, `validate_eq_error_iff`), because of the first of their mappings that does
   (`validate_eq_find?`).
2. `Refused`: a table is refused that misses a predicate or that the engine has no search for.
3. `new_replaceTable`, `new_replaceAll`: after one exchange and after any run of them the resolver is
   the one that would be built from the last table that was accepted.
4. `predicate?_of_candidate?`, `resolveLeaf_congr`: a leaf asks only conditions that have predicates,
   so it does not matter what a condition without one means.
5. `replaceAll_eq_new`: these together, after any run of exchanges.
-/

namespace GlyphFold

/-! ## Conditions without predicates -/

theorem Table.mem_conditions {t : Table} {c : Condition} :
    c ∈ t.conditions ↔ c ≠ .always ∧ ∃ m ∈ t.all, m.condition = c := by
  unfold conditions
  rw [mem_distinct, List.mem_filter, List.mem_map, and_comm, decide_eq_true_iff]

theorem Table.find?_distinct {α : Type} [DecidableEq α] (p : α → Bool) (l : List α) :
    (distinct l).find? p = l.find? p := by
  induction l with
  | nil => rfl
  | cons a l ih =>
    rw [distinct, List.find?_cons, List.find?_cons]
    cases ha : p a with
    | true => rfl
    | false =>
      have hother : (fun b => decide (decide (b ≠ a) = true ∧ p b = true)) = p := by
        funext b
        by_cases hb : b = a
        · simp [hb, ha]
        · simp [hb]
      rw [List.find?_filter, hother, ih]

namespace Evaluator

/-- A mapping of the table has a condition that the evaluator has no predicate for. -/
def Misses (ev : Evaluator) (t : Table) : Prop :=
  ∃ s m, t.find? s = some m ∧ m.condition ≠ .always ∧ ev.predicate? m.condition = none

theorem isRegistered_iff {ev : Evaluator} {c : Condition} :
    ev.isRegistered c = true ↔ c = .always ∨ ∃ p, ev.predicate? c = some p := by
  unfold isRegistered
  rw [Bool.or_eq_true, decide_eq_true_iff, Option.isSome_iff_exists]

theorem validate_eq_ok_iff_registered {ev : Evaluator} {t : Table} :
    ev.validate t = .ok () ↔ ∀ c ∈ t.conditions, ev.isRegistered c = true := by
  unfold validate
  cases hfind : t.conditions.find? fun c => !ev.isRegistered c with
  | none => simpa using hfind
  | some c =>
    have hc := List.find?_some hfind
    have hmem := List.mem_of_find?_eq_some hfind
    refine ⟨nofun, fun h => ?_⟩
    rw [h c hmem] at hc
    cases hc

theorem find?_conditions (ev : Evaluator) (t : Table) :
    (t.conditions.find? fun c => !ev.isRegistered c) =
      (t.all.find? fun m => !ev.isRegistered m.condition).map Mapping.condition := by
  have halways : (fun c => decide (decide (c ≠ .always) = true ∧ (!ev.isRegistered c) = true)) =
      fun c => !ev.isRegistered c := by
    funext c
    by_cases hc : c = .always
    · simp [hc, isRegistered]
    · simp [hc]
  unfold Table.conditions
  rw [Table.find?_distinct, List.find?_filter, halways, List.find?_map]
  rfl

/-- What is refused is refused for the first mapping without a predicate. -/
theorem validate_eq_find? (ev : Evaluator) (t : Table) :
    ev.validate t = match t.all.find? fun m => !ev.isRegistered m.condition with
      | none => .ok ()
      | some m => .error ⟨m.source, m.condition.text⟩ := by
  unfold validate
  rw [find?_conditions]
  cases hfind : t.all.find? fun m => !ev.isRegistered m.condition with
  | none => rfl
  | some m =>
    -- no mapping before this one has its condition, for that would be refused too
    obtain ⟨hm, before, after, hsplit, hbefore⟩ := List.find?_eq_some_iff_append.1 hfind
    have huser : (t.all.find? fun user => user.condition = m.condition) = some m := by
      refine List.find?_eq_some_iff_append.2 ⟨decide_eq_true rfl, before, after, hsplit, ?_⟩
      intro b hb
      rw [Bool.not_eq_true', decide_eq_false_iff_not]
      intro heq
      have hregistered := hbefore b hb
      rw [heq, hm] at hregistered
      cases hregistered
    simp only [Option.map_some, huser, Option.getD_some]

section Validate

variable {ev : Evaluator} {t : Table} (ht : t.Consistent)

include ht

theorem validate_eq_ok_iff : ev.validate t = .ok () ↔ ¬ ev.Misses t := by
  rw [validate_eq_ok_iff_registered]
  constructor
  · rintro h ⟨s, m, hm, hc, hnone⟩
    have hmem := ((Table.find?_eq_some_iff ht).1 hm).1
    rcases isRegistered_iff.1 (h _ (Table.mem_conditions.2 ⟨hc, m, hmem, rfl⟩)) with h | ⟨p, hp⟩
    · exact hc h
    · exact nomatch hnone.symm.trans hp
  · intro h c hc
    obtain ⟨hne, m, hmem, rfl⟩ := Table.mem_conditions.1 hc
    have hm := (Table.find?_eq_some_iff ht).2 ⟨hmem, rfl⟩
    refine isRegistered_iff.2 (.inr (Option.ne_none_iff_exists'.1 fun hnone => ?_))
    exact h ⟨m.source, m, hm, hne, hnone⟩

theorem validate_eq_error_iff : (∃ e, ev.validate t = .error e) ↔ ev.Misses t := by
  have hok : ev.validate t = .ok () ↔ ¬ ev.Misses t := validate_eq_ok_iff ht
  cases hv : ev.validate t with
  | ok u =>
    refine ⟨nofun, fun h => ?_⟩
    exact absurd h (hok.1 hv)
  | error e =>
    refine ⟨fun _ => ?_, fun _ => ⟨e, rfl⟩⟩
    by_contra h
    exact nomatch hv.symm.trans (hok.2 h)

end Validate

end Evaluator

/-! ## Tables that are refused -/

/-- The evaluator misses a predicate for the table, or the engine has no search for it. -/
def Refused (engine : Engine) (ev : Evaluator) (t : Table) : Prop :=
  ev.Misses t ∨ ∃ reason, engine.fault? t = some reason

namespace Resolver

section Refused

variable {engine : Engine} {ev : Evaluator} {t : Table} (ht : t.Consistent)

include ht

theorem patternOf_of_not_refused (h : ¬ Refused engine ev t) :
    patternOf engine t ev = .ok (.ofTable t) := by
  obtain ⟨hmisses, hfault⟩ := not_or.1 h
  refine patternOf_eq_ok_iff.2 ⟨(Evaluator.validate_eq_ok_iff ht).2 hmisses, ?_, rfl⟩
  exact Option.eq_none_iff_forall_ne_some.2 (not_exists.1 hfault)

theorem exists_patternOf_eq_condition_iff :
    (∃ c, patternOf engine t ev = .error (.condition c)) ↔ ev.Misses t := by
  rw [← Evaluator.validate_eq_error_iff ht]
  simp only [patternOf_eq_condition_iff]

theorem patternOf_eq_pattern_iff {reason : String} :
    patternOf engine t ev = .error (.pattern reason) ↔
      ¬ ev.Misses t ∧ engine.fault? t = some reason := by
  rw [← Evaluator.validate_eq_ok_iff ht]
  simp only [patternOf_eq_error_iff, ResolverFault.pattern.injEq, reduceCtorEq, and_false,
    exists_false, false_or, exists_eq_right']

theorem patternOf_eq_error_iff_refused :
    (∃ e, patternOf engine t ev = .error e) ↔ Refused engine ev t := by
  constructor
  · rintro ⟨e, he⟩
    by_contra h
    rw [patternOf_of_not_refused ht h] at he
    cases he
  · intro h
    by_cases hmisses : ev.Misses t
    · obtain ⟨c, hc⟩ := (exists_patternOf_eq_condition_iff ht).2 hmisses
      exact ⟨_, hc⟩
    · obtain ⟨reason, hreason⟩ := h.resolve_left hmisses
      exact ⟨_, (patternOf_eq_pattern_iff ht).2 ⟨hmisses, hreason⟩⟩

end Refused

end Resolver

/-! ## Runs of exchanges -/

/-- The last of some tables that is not refused, or the first table when there is none among
them. -/
def LastAccepted (engine : Engine) (ev : Evaluator) (first : Table) (tables : List Table)
    (active : Table) : Prop :=
  (active = first ∧ ∀ t ∈ tables, Refused engine ev t) ∨
    ∃ before after, tables = before ++ active :: after ∧ ¬ Refused engine ev active ∧
      ∀ t ∈ after, Refused engine ev t

namespace Resolver

variable {engine : Engine}

/-- The resolver after a run of exchanges. -/
def replaceAll (engine : Engine) (r : Resolver) (tables : List Table) : Resolver :=
  tables.foldl (fun r t => (r.replaceTable engine t).2) r

/-- An exchange leaves the resolver that is built from the new table, or the old resolver if the new
table is refused. -/
theorem new_replaceTable {t : Table} {ev : Evaluator} {r : Resolver}
    (hr : new engine t ev = .ok r) {next : Table} (hnext : next.Consistent) :
    (¬ Refused engine ev next → new engine next ev = .ok (r.replaceTable engine next).2) ∧
      (Refused engine ev next → (r.replaceTable engine next).2 = r) := by
  obtain ⟨-, -, rfl⟩ := new_eq_ok_iff.1 hr
  constructor
  · intro h
    obtain ⟨hvalid, hbuilt, -⟩ := patternOf_eq_ok_iff.1 (patternOf_of_not_refused hnext h)
    rw [replaceTable_of_ok hvalid hbuilt]
    exact new_eq_ok_iff.2 ⟨hvalid, hbuilt, rfl⟩
  · intro h
    obtain ⟨e, he⟩ := (patternOf_eq_error_iff_refused hnext).2 h
    rw [replaceTable_of_error he]

/-- After a run of exchanges the resolver is the one that is built from the last accepted table. -/
theorem new_replaceAll {t : Table} {ev : Evaluator} {r : Resolver} (hr : new engine t ev = .ok r)
    {tables : List Table} (htables : ∀ t ∈ tables, t.Consistent) :
    ∃ active, LastAccepted engine ev t tables active ∧
      new engine active ev = .ok (r.replaceAll engine tables) := by
  induction tables using List.reverseRecOn with
  | nil => exact ⟨t, .inl ⟨rfl, nofun⟩, hr⟩
  | append_singleton tables next ih =>
    obtain ⟨active, hlast, hactive⟩ := ih fun t ht => htables t (List.mem_append_left _ ht)
    have hnext := htables next (by simp)
    obtain ⟨haccepted, hrefused⟩ := new_replaceTable hactive hnext
    rw [replaceAll, List.foldl_concat]
    change ∃ active, _ ∧
      new engine active ev = .ok ((r.replaceAll engine tables).replaceTable engine next).2
    by_cases h : Refused engine ev next
    · refine ⟨active, ?_, by rwa [hrefused h]⟩
      rcases hlast with ⟨rfl, hall⟩ | ⟨before, after, rfl, hok, hall⟩
      · refine .inl ⟨rfl, fun t ht => ?_⟩
        rcases List.mem_append.1 ht with ht | ht
        · exact hall t ht
        · exact List.mem_singleton.1 ht ▸ h
      · refine .inr ⟨before, after ++ [next], by simp, hok, fun t ht => ?_⟩
        rcases List.mem_append.1 ht with ht | ht
        · exact hall t ht
        · exact List.mem_singleton.1 ht ▸ h
    · exact ⟨next, .inr ⟨tables, [], rfl, h, nofun⟩, haccepted h⟩

/-! ## Conditions that leaves ask -/

theorem predicate?_of_candidate? {t : Table} {ev : Evaluator} {r : Resolver}
    (hr : new engine t ev = .ok r) (ht : t.Consistent) {tree : TokenTree} {g : Grammar} {n : Node}
    {m : Mapping} {ctx : NodeContext} (h : r.candidate? tree g n = some (m, ctx)) :
    m.condition = .always ∨ ∃ p, r.evaluator.predicate? m.condition = some p := by
  obtain ⟨hok, -, rfl⟩ := new_eq_ok_iff.1 hr
  obtain ⟨text, -, -, hm, -, -⟩ := candidate?_eq_some_iff.1 h
  by_contra hnone
  obtain ⟨hc, hp⟩ := not_or.1 hnone
  have hp : ev.predicate? m.condition = none :=
    Option.eq_none_iff_forall_ne_some.2 fun p hp' => hp ⟨p, hp'⟩
  exact (Evaluator.validate_eq_ok_iff ht).1 hok ⟨text, m, hm, hc, hp⟩

/-- More predicates do not change what a leaf gives. -/
theorem resolveLeaf_congr {t : Table} {ev : Evaluator} {r : Resolver}
    (hr : new engine t ev = .ok r) (ht : t.Consistent) {more : Evaluator}
    (hmore : ∀ c p, r.evaluator.predicate? c = some p → more.predicate? c = some p)
    (tree : TokenTree) (g : Grammar) (n : Node) :
    { r with evaluator := more }.resolveLeaf tree g n = r.resolveLeaf tree g n := by
  refine Option.ext fun region => ?_
  rw [resolveLeaf_eq_some_iff, resolveLeaf_eq_some_iff]
  refine exists_congr fun m => exists_congr fun ctx => and_congr_right fun h => ?_
  refine and_congr_left fun _ => ?_
  by_cases hc : m.condition = .always
  · exact ⟨fun _ => .inl hc, fun _ => .inl hc⟩
  · obtain ⟨p, hp⟩ := (predicate?_of_candidate? hr ht h).resolve_left hc
    rw [Evaluator.holds_iff, Evaluator.holds_iff, hp, hmore _ p hp]

/-- **The active table.** After any run of exchanges, with tables made by any edits, the resolver is
the one that is built from the last accepted table. A further table is refused for a condition
exactly if it uses one without a predicate, and otherwise only if the engine has no search for it;
a refused table leaves the resolver what it was. Every leaf asks conditions that have predicates
only, so predicates for other conditions would change nothing. -/
theorem replaceAll_eq_new (engine : Engine) (edits : List Table.Edit) (ev : Evaluator)
    {r : Resolver} (hr : new engine (Table.empty.run edits) ev = .ok r)
    (calls : List (List Table.Edit)) :
    let now := r.replaceAll engine (calls.map Table.empty.run)
    (∃ active, LastAccepted engine ev (Table.empty.run edits) (calls.map Table.empty.run) active ∧
      new engine active ev = .ok now ∧ now.table = active ∧ now.pattern = .ofTable active) ∧
    (∀ next : List Table.Edit,
      let t := Table.empty.run next
      ((∃ c, (now.replaceTable engine t).1 = .error (.condition c)) ↔ ev.Misses t) ∧
      (∀ reason, (now.replaceTable engine t).1 = .error (.pattern reason) ↔
        ¬ ev.Misses t ∧ engine.fault? t = some reason) ∧
      ((∃ e, (now.replaceTable engine t).1 = .error e) ↔ Refused engine ev t) ∧
      (Refused engine ev t → (now.replaceTable engine t).2 = now)) ∧
    (∀ tree g n m ctx, now.candidate? tree g n = some (m, ctx) →
      m.condition = .always ∨ ∃ p, now.evaluator.predicate? m.condition = some p) ∧
    ∀ more : Evaluator,
      (∀ c p, now.evaluator.predicate? c = some p → more.predicate? c = some p) →
      ∀ tree g id, { now with evaluator := more }.resolve tree g id = now.resolve tree g id := by
  intro now
  have hcalls : ∀ t ∈ calls.map Table.empty.run, t.Consistent := by
    intro t ht
    obtain ⟨call, -, rfl⟩ := List.mem_map.1 ht
    exact Table.consistent_run call
  obtain ⟨active, hlast, hnow⟩ := new_replaceAll hr hcalls
  have hactive : active.Consistent := by
    rcases hlast with ⟨rfl, -⟩ | ⟨before, after, hsplit, -, -⟩
    · exact Table.consistent_run edits
    · exact hcalls active (by simp [hsplit])
  obtain ⟨-, -, hparts⟩ := new_eq_ok_iff.1 hnow
  refine ⟨⟨active, hlast, hnow, congrArg Resolver.table hparts, congrArg Resolver.pattern hparts⟩,
    fun next => ?_, fun tree g n m ctx h => predicate?_of_candidate? hnow hactive h,
    fun more hmore tree g id => ?_⟩
  · have hnext := Table.consistent_run next
    have hev : now.evaluator = ev := congrArg Resolver.evaluator hparts
    simp only [replaceTable_eq_error_iff, hev]
    exact ⟨exists_patternOf_eq_condition_iff hnext, fun reason => patternOf_eq_pattern_iff hnext,
      patternOf_eq_error_iff_refused hnext, (new_replaceTable hnow hnext).2⟩
  · have hleaf := funext (resolveLeaf_congr hnow hactive hmore tree g)
    unfold resolve
    rw [hleaf]

/-- A mapping whose condition has a built-in predicate. -/
def powerEdits : List Table.Edit := [.upsert ⟨"**", "^", "Operator", .parentIsBinary⟩]

/-- A mapping whose condition has none. -/
def matmulEdits : List Table.Edit := [.upsert ⟨"@", "∘", "Operator", .custom "is_matmul"⟩]

/-- Of two exchanges the second is refused, and the table of the first stays active. -/
theorem replaceAll_power_matmul :
    ∃ r, new .willing (Table.empty.run []) .builtin = .ok r ∧
      new .willing (Table.empty.run powerEdits) .builtin =
        .ok (r.replaceAll .willing [Table.empty.run powerEdits, Table.empty.run matmulEdits]) := by
  refine ⟨_, rfl, ?_⟩
  obtain ⟨⟨active, hlast, hnew, -⟩, -⟩ :=
    replaceAll_eq_new .willing [] .builtin rfl [powerEdits, matmulEdits]
  have hpower : ¬ Refused .willing .builtin (Table.empty.run powerEdits) := fun h => by
    obtain ⟨e, he⟩ := (patternOf_eq_error_iff_refused (Table.consistent_run _)).2 h
    cases he
  have hmatmul : Refused .willing .builtin (Table.empty.run matmulEdits) :=
    (patternOf_eq_error_iff_refused (Table.consistent_run _)).1 ⟨_, rfl⟩
  rcases hlast with ⟨-, hall⟩ | ⟨before, after, hsplit, hok, -⟩
  · exact absurd (hall _ (by simp)) hpower
  · match before, hsplit with
    | [], hsplit =>
      obtain ⟨rfl, -⟩ := List.cons.inj hsplit
      exact hnew
    | [_], hsplit =>
      obtain ⟨-, hsplit⟩ := List.cons.inj hsplit
      exact absurd ((List.cons.inj hsplit).1 ▸ hmatmul) hok
    | _ :: _ :: before, hsplit =>
      have hlength := congrArg List.length hsplit
      simp at hlength

end Resolver

end GlyphFold
