import GlyphFold.Json.Reader

/-!
# What readers give

A property of everything that a reader can give, whatever text is ahead, follows from the readers that
it is made of.

1. `Gives`: whatever the reader gives has the property. `Gives.bind`, `gives_pure`, `gives_throw`,
   `gives_ite`: readers put together
2. `Gives.listOf`: every item has what the reader of items gives
3. `Gives.foldMembers`: what the reader of members keeps holds at the end of the object
-/

namespace GlyphFold.Json.Reader

variable {α β σ : Type}

/-- What a chain of two steps gives comes from something that the first one gives. -/
theorem exists_of_bind_eq_ok {e : Except Fault α} {f : α → Except Fault β} {y : β}
    (h : (e >>= f) = .ok y) : ∃ x, e = .ok x ∧ f x = .ok y := by
  cases e with
  | error e => cases h
  | ok x => exact ⟨x, rfl, h⟩

theorem exists_of_map_eq_ok {e : Except Fault α} {f : α → β} {y : β} (h : e.map f = .ok y) :
    ∃ x, e = .ok x ∧ f x = y := by
  cases e with
  | error e => cases h
  | ok x => exact ⟨x, rfl, Except.ok.inj h⟩

theorem exists_of_bind {r : Reader α} {f : α → Reader β} {cs rest : List Char} {y : β}
    (h : (r >>= f) cs = .ok (y, rest)) :
    ∃ x mid, r cs = .ok (x, mid) ∧ f x mid = .ok (y, rest) := by
  obtain ⟨⟨x, mid⟩, hx, hy⟩ := exists_of_bind_eq_ok (f := fun p : α × List Char => f p.1 p.2) h
  exact ⟨x, mid, hx, hy⟩

theorem eq_ok_of_monadLift {e : Except Fault α} {cs rest : List Char} {x : α}
    (h : (monadLift e : Reader α) cs = .ok (x, rest)) : e = .ok x := by
  cases e with
  | error e => cases h
  | ok y =>
    cases h
    rfl

theorem exists_of_once {name : String} {old o : Option α} {read : Reader α} {cs rest : List Char}
    (h : once name old read cs = .ok (o, rest)) :
    old = none ∧ ∃ mid x, colon cs = .ok ((), mid) ∧ read mid = .ok (x, rest) ∧ o = some x := by
  unfold once at h
  split at h
  · cases h
  · next hold =>
    obtain ⟨_, mid, hcolon, h⟩ := exists_of_bind h
    obtain ⟨x, _, hread, h⟩ := exists_of_bind h
    cases h
    exact ⟨Option.not_isSome_iff_eq_none.1 hold, mid, x, hcolon, hread, rfl⟩

/-- Whatever the reader gives has the property. -/
def Gives (r : Reader α) (P : α → Prop) : Prop := ∀ cs x rest, r cs = .ok (x, rest) → P x

theorem gives_true (r : Reader α) : Gives r fun _ => True := fun _ _ _ _ => trivial

theorem gives_pure {P : α → Prop} {x : α} (h : P x) : Gives (pure x) P := by
  intro cs y rest hy
  cases hy
  exact h

theorem gives_throw {P : α → Prop} (e : Fault) : Gives (throw e) P := by
  intro cs x rest hx
  cases hx

/-- A result of another kind that is handed on. -/
theorem gives_monadLift {P : α → Prop} {e : Except Fault α} (h : ∀ x, e = .ok x → P x) :
    Gives (monadLift e) P := fun _ x _ hx => h x (eq_ok_of_monadLift hx)

theorem Gives.bind {r : Reader α} {Q : α → Prop} (hr : Gives r Q) {f : α → Reader β}
    {P : β → Prop} (hf : ∀ x, Q x → Gives (f x) P) : Gives (r >>= f) P := by
  intro cs y rest hy
  obtain ⟨x, mid, hx, hy⟩ := exists_of_bind hy
  exact hf x (hr cs x mid hx) mid y rest hy

/-- What the first reader gives does not matter. -/
theorem gives_bind {r : Reader α} {f : α → Reader β} {P : β → Prop} (hf : ∀ x, Gives (f x) P) :
    Gives (r >>= f) P := (gives_true r).bind fun x _ => hf x

theorem gives_mismatch {P : α → Prop} (expected : String) : Gives (mismatch expected) P :=
  gives_bind fun _ => gives_throw _

theorem Gives.itemsUpTo {item : Reader α} {P : α → Prop} (h : Gives item P) (bound : Nat)
    (first : Bool) : Gives (itemsUpTo item bound first) fun xs => ∀ x ∈ xs, P x := by
  induction bound generalizing first with
  | zero => exact gives_throw _
  | succ bound ih =>
    refine gives_bind fun another => ?_
    cases another with
    | false => exact gives_pure nofun
    | true =>
      refine h.bind fun x hx => (ih false).bind fun xs hxs => gives_pure ?_
      exact List.forall_mem_cons.2 ⟨hx, hxs⟩

theorem Gives.listOf {item : Reader α} {P : α → Prop} (h : Gives item P) :
    Gives (listOf item) fun xs => ∀ x ∈ xs, P x :=
  gives_bind fun _ => gives_bind fun cs => (h.itemsUpTo (cs.length + 1) true).bind fun _ hxs =>
    gives_bind fun _ => gives_pure hxs

theorem gives_foldMembersUpTo {member : σ → String → Reader σ} {P : σ → Prop}
    (h : ∀ s name, P s → Gives (member s name) P) (bound : Nat) (first : Bool) {s : σ} (hs : P s) :
    Gives (foldMembersUpTo member bound first s) P := by
  induction bound generalizing first s with
  | zero => exact gives_throw _
  | succ bound ih =>
    refine gives_bind fun another => ?_
    cases another with
    | false => exact gives_pure hs
    | true =>
      exact gives_bind fun _ => gives_bind fun name => (h s name hs).bind fun s' hs' => ih false hs'

theorem gives_foldMembers {member : σ → String → Reader σ} {P : σ → Prop}
    (h : ∀ s name, P s → Gives (member s name) P) {s : σ} (hs : P s) :
    Gives (foldMembers member s) P :=
  gives_bind fun _ => gives_bind fun cs =>
    (gives_foldMembersUpTo h (cs.length + 1) true hs).bind fun _ hs' =>
      gives_bind fun _ => gives_pure hs'

theorem Gives.once {read : Reader α} {P : α → Prop} (h : Gives read P) (name : String)
    (old : Option α) : Gives (once name old read) fun o => ∀ x, o = some x → P x := by
  intro cs o rest ho
  obtain ⟨-, mid, x, -, hread, rfl⟩ := exists_of_once ho
  rintro y ⟨⟩
  exact h mid x rest hread

theorem Gives.read {r : Reader α} {P : α → Prop} (h : Gives r P) {text : String} {x : α}
    (hx : read r text = .ok x) : P x := by
  unfold Reader.read at hx
  split at hx
  · cases hx
  · next hr =>
    split at hx
    · cases hx
      exact h _ _ _ hr
    · cases hx

end GlyphFold.Json.Reader
