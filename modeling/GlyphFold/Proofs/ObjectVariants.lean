import Mathlib.Data.List.Nodup
import GlyphFold.Proofs.JsonSkipping
import GlyphFold.Proofs.JsonWriting

/-!
# Objects of other origin

Of an object that was not written here, the members may come in another order, those with nothing to
say may be missing, and others may stand between them that nobody here knows.

1. `Nested`, `reads_value_nested`: values that are read although nobody knows what they mean
2. `members_of_prefix`: reading members one by one, where the state is told by those already seen
3. `Variant`: the members of such an object. `Variant.next` tells what the next one can be.
4. `field`: what is looked up by a name (`field_concat`, `Variant.field_eq`)
-/

namespace GlyphFold.Json

open Reader

/-! ## Values that nobody knows -/

/-- Lists and objects are nested at most so deep, integers fit 64 bits, and there are no floats. -/
inductive Nested : Nat → Value → Prop
  | null (depth : Nat) : Nested depth .null
  | boolean (depth : Nat) (b : Bool) : Nested depth (.boolean b)
  | integer (depth : Nat) {n : Int} (hn : Fits n) : Nested depth (.integer n)
  | string (depth : Nat) (s : String) : Nested depth (.string s)
  | list {depth : Nat} {vs : List Value} (h : ∀ v ∈ vs, Nested depth v) :
      Nested (depth + 1) (.list vs)
  | object {depth : Nat} {ms : List (String × Value)} (h : ∀ m ∈ ms, Nested depth m.2) :
      Nested (depth + 1) (.object ms)

section Nested

variable (depth : Nat)

@[simp] theorem nested_null : Nested depth .null := .null depth

@[simp] theorem nested_boolean (b : Bool) : Nested depth (.boolean b) := .boolean depth b

@[simp] theorem nested_string (s : String) : Nested depth (.string s) := .string depth s

@[simp] theorem nested_integer_iff {n : Int} : Nested depth (.integer n) ↔ Fits n := by
  constructor
  · rintro ⟨⟩
    assumption
  · exact .integer depth

@[simp] theorem nested_list_iff {vs : List Value} :
    Nested (depth + 1) (.list vs) ↔ ∀ v ∈ vs, Nested depth v := by
  constructor
  · rintro ⟨⟩
    assumption
  · exact .list

@[simp] theorem nested_object_iff {ms : List (String × Value)} :
    Nested (depth + 1) (.object ms) ↔ ∀ m ∈ ms, Nested depth m.2 := by
  constructor
  · rintro ⟨⟩
    assumption
  · exact .object

end Nested

theorem printed_nested {depth : Nat} {v : Value} (h : Nested depth v) : Printed v := by
  induction h with
  | null => exact fun _ => .null
  | boolean _ b => exact fun _ => .boolean b
  | integer _ _ => exact printed_integer _
  | string _ s => exact printed_string s
  | list _ ih => exact printed_list ih
  | object _ ih => exact printed_object ih

/-- What holds of no members, and of one more whenever it holds of those before, holds of all. -/
theorem prefix_induction {μ : Type} {ms : List μ} {P : List μ → Prop} (nil : P [])
    (concat : ∀ seen m, seen ++ [m] <+: ms → P seen → P (seen ++ [m])) : P ms := by
  have hahead : ∀ seen, seen <+: ms → P seen := by
    intro seen
    induction seen using List.reverseRecOn with
    | nil => exact fun _ => nil
    | append_singleton seen m ih =>
      exact fun h => concat seen m h (ih ((List.prefix_append seen [m]).trans h))
  exact hahead ms List.prefix_rfl

/-- Members lead to a state for all of them when each one leads from the state for those before it to
the state with it. -/
theorem Reader.members_of_prefix {σ : Type} {member : σ → String → Reader σ}
    {ms : List (String × Value)} (state : List (String × Value) → σ)
    (h : ∀ seen m, seen ++ [m] <+: ms →
      ReadsMember (member (state seen) m.1) m.2 (state (seen ++ [m]))) :
    Members member (state []) ms (state ms) := by
  refine prefix_induction (P := fun seen => Members member (state []) seen (state seen)) (.nil _) ?_
  intro seen m hahead hseen
  exact hseen.append (.cons (h seen m hahead) (.nil _))

theorem Reader.reads_value_nested {depth : Nat} {v : Value} (h : Nested depth v) {limit : Nat}
    (hlimit : depth ≤ limit) : Reads (value limit) v v := by
  induction h generalizing limit with
  | null => exact reads_value_null limit
  | boolean _ b => exact reads_value_boolean limit b
  | integer _ hn => exact reads_value_integer limit hn
  | string _ s => exact reads_value_string limit s
  | @list depth vs _ ih =>
    obtain ⟨limit, rfl⟩ := Nat.exists_eq_add_one.2 (Nat.zero_lt_of_lt hlimit)
    have hitems : List.Forall₂ (Reads (value limit)) vs vs :=
      List.forall₂_same.2 fun v hv => ih v hv (Nat.le_of_succ_le_succ hlimit)
    intro b cs rest hb hcs _
    obtain ⟨hpeek, hlist⟩ := listOf_of_spells hitems hb hcs rest
    unfold value valueWith
    rw [bind_of_ok hpeek]
    change (listOf (value limit) >>= fun _ => _) _ = _
    rw [bind_of_ok hlist]
    rfl
  | @object depth ms _ ih =>
    obtain ⟨limit, rfl⟩ := Nat.exists_eq_add_one.2 (Nat.zero_lt_of_lt hlimit)
    have hmembers : Members (fun members name => do
        colon
        return members ++ [(name, ← value limit)]) [] ms ms := by
      refine members_of_prefix id fun seen m hahead => ?_
      have hvalue := ih m (hahead.subset (by simp)) (Nat.le_of_succ_le_succ hlimit)
      intro before after cs rest hbefore hafter hcs hrest
      rw [bind_of_ok (colon_blank hbefore _), bind_of_ok (hvalue after cs rest hafter hcs hrest)]
      rfl
    intro b cs rest hb hcs _
    obtain ⟨hpeek, hfold⟩ := foldMembers_of_spells hmembers hb hcs rest
    unfold value valueWith
    rw [bind_of_ok hpeek]
    change (foldMembers _ [] >>= fun _ => _) _ = _
    rw [bind_of_ok hfold]
    rfl

/-! ## Members missing and added -/

/-- How deep the values of added members are nested. -/
def addedDepth : Nat := 100

/-- The members are all of `full` in any order, but that those in `defaults` may be missing and that
members with other names may be added. -/
inductive Variant (full defaults : List (String × Value)) : List (String × Value) → Prop
  | intro {kept added ms : List (String × Value)} (hkept : kept.Sublist full)
      (hmissing : ∀ m ∈ full, m ∈ kept ∨ m ∈ defaults)
      (hadded : ∀ m ∈ added, m.1 ∉ full.map Prod.fst ∧ Nested addedDepth m.2)
      (horder : ms.Perm (kept ++ added)) : Variant full defaults ms

namespace Variant

variable {full defaults ms : List (String × Value)}

theorem of_sublist (hms : ms.Sublist full) (hmissing : ∀ m ∈ full, m ∈ ms ∨ m ∈ defaults) :
    Variant full defaults ms := by
  refine .intro hms hmissing (List.forall_mem_nil _) ?_
  rw [List.append_nil]

theorem mem_or_added (h : Variant full defaults ms) {m : String × Value} (hm : m ∈ ms) :
    m ∈ full ∨ m.1 ∉ full.map Prod.fst ∧ Nested addedDepth m.2 := by
  obtain ⟨hkept, -, hadded, horder⟩ := h
  rcases List.mem_append.1 (horder.mem_iff.1 hm) with hm | hm
  · exact .inl (hkept.subset hm)
  · exact .inr (hadded m hm)

/-- No name of `full` comes twice. -/
theorem pairwise (h : Variant full defaults ms) (hnodup : (full.map Prod.fst).Nodup) :
    ms.Pairwise fun a b => a.1 = b.1 → a.1 ∉ full.map Prod.fst := by
  obtain ⟨hkept, -, hadded, horder⟩ := h
  have hsymm : ∀ {a b : String × Value}, (a.1 = b.1 → a.1 ∉ full.map Prod.fst) →
      b.1 = a.1 → b.1 ∉ full.map Prod.fst := fun h heq => heq ▸ h heq.symm
  refine (horder.pairwise_iff hsymm).2 (List.pairwise_append.2 ⟨?_, ?_, ?_⟩)
  · have hnames := List.pairwise_map.1 hnodup
    exact (hnames.sublist hkept).imp fun hne heq => absurd heq hne
  · exact List.pairwise_of_forall_mem_list fun a ha _ _ _ => (hadded a ha).1
  · exact fun a _ b hb heq => heq ▸ (hadded b hb).1

/-- A member that comes next is one of `full` whose name has not been seen, or it is an added one. -/
theorem next (h : Variant full defaults ms) (hnodup : (full.map Prod.fst).Nodup)
    {seen : List (String × Value)} {m : String × Value} (hahead : seen ++ [m] <+: ms) :
    (m ∈ full ∧ ∀ a ∈ seen, a.1 ≠ m.1) ∨ m.1 ∉ full.map Prod.fst ∧ Nested addedDepth m.2 := by
  refine (h.mem_or_added (hahead.subset (by simp))).imp_left fun hm => ⟨hm, fun a ha heq => ?_⟩
  have hpairwise := (h.pairwise hnodup).sublist hahead.sublist
  have hnew := (List.pairwise_append.1 hpairwise).2.2 a ha m List.mem_cons_self heq
  exact hnew (heq ▸ List.mem_map_of_mem hm)

/-- By a name of `full` its own value is found, unless the member is missing. -/
theorem lookup_eq (h : Variant full defaults ms) (hnodup : (full.map Prod.fst).Nodup)
    {name : String} {v : Value} (hm : (name, v) ∈ full) :
    ms.lookup name = some v ∨ ms.lookup name = none ∧ (name, v) ∈ defaults := by
  cases hlookup : ms.lookup name with
  | some w =>
    have hw : (name, w) ∈ ms := by
      obtain ⟨front, behind, rfl, -⟩ := List.lookup_eq_some_iff.1 hlookup
      exact List.mem_append_right _ List.mem_cons_self
    have hname : name ∈ full.map Prod.fst := List.mem_map.2 ⟨_, hm, rfl⟩
    have hfull : (name, w) ∈ full := (h.mem_or_added hw).resolve_right fun hadded => hadded.1 hname
    have heq := List.inj_on_of_nodup_map hnodup hfull hm rfl
    exact .inl (congrArg some (Prod.mk.inj heq).2)
  | none =>
    obtain ⟨-, hmissing, -, horder⟩ := h
    refine .inr ⟨rfl, (hmissing _ hm).resolve_left fun hkept => ?_⟩
    have hms := horder.mem_iff.2 (List.mem_append_left _ hkept)
    simpa using List.lookup_eq_none_iff.1 hlookup _ hms

end Variant

/-- What the member by a name is taken for, if there is one. -/
def field {α : Type} (name : String) (take : Value → Option α) (ms : List (String × Value)) :
    Option α := (ms.lookup name).bind take

section Field

variable {α : Type} {name : String} {take : Value → Option α} {seen : List (String × Value)}

theorem field_concat_of_ne {m : String × Value} (h : m.1 ≠ name) :
    field name take (seen ++ [m]) = field name take seen := by
  rw [field, lookup_concat_of_ne h, field]

theorem lookup_eq_none (h : ∀ m ∈ seen, m.1 ≠ name) : seen.lookup name = none :=
  List.lookup_eq_none_iff.2 fun m hm => bne_iff_ne.2 (h m hm).symm

theorem field_eq_none (h : ∀ m ∈ seen, m.1 ≠ name) : field name take seen = none := by
  rw [field, lookup_eq_none h, Option.bind_none]

theorem field_concat (h : ∀ m ∈ seen, m.1 ≠ name) (v : Value) :
    field name take (seen ++ [(name, v)]) = take v := by
  rw [field, lookup_concat_self (lookup_eq_none h), Option.bind_some]

theorem Variant.field_eq {full defaults ms : List (String × Value)} (h : Variant full defaults ms)
    (hnodup : (full.map Prod.fst).Nodup) {v : Value} (hm : (name, v) ∈ full) :
    field name take ms = take v ∨ field name take ms = none ∧ (name, v) ∈ defaults := by
  rcases h.lookup_eq hnodup hm with hlookup | ⟨hlookup, hdefault⟩
  · exact .inl (by rw [field, hlookup, Option.bind_some])
  · exact .inr ⟨by rw [field, hlookup, Option.bind_none], hdefault⟩

end Field

/-- The text that a value is, if it is one. -/
def Value.text? : Value → Option String
  | .string s => some s
  | _ => none

end GlyphFold.Json
