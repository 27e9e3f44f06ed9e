import GlyphFold.Text.Bytes

/-!
# Patterns of bytes

What a glob comes down to: bytes of a class, runs of them, sequences and choices.

1. `Accepts`: the byte strings of a pattern
2. `rests`, `admits`: the matcher
3. `mem_rests`, `admits_iff`: the matcher finds exactly what the pattern accepts
-/

namespace GlyphFold.Glob

inductive Pattern where
  | empty
  /-- One byte of a class. -/
  | byte (accepts : UInt8 → Bool)
  /-- Any number of bytes of a class. -/
  | run (accepts : UInt8 → Bool)
  | append (p q : Pattern)
  | either (p q : Pattern)

namespace Pattern

/-- The byte strings of a pattern. -/
def Accepts : Pattern → List UInt8 → Prop
  | empty, s => s = []
  | byte accepts, s => ∃ b, s = [b] ∧ accepts b = true
  | run accepts, s => ∀ b ∈ s, accepts b = true
  | append p q, s => ∃ u v, s = u ++ v ∧ p.Accepts u ∧ q.Accepts v
  | either p q, s => p.Accepts s ∨ q.Accepts s

/-! ## Matching -/

/-- What may be left of a byte string behind a run of bytes of a class. -/
def runRests (accepts : UInt8 → Bool) : List UInt8 → List (List UInt8)
  | [] => [[]]
  | b :: s => (b :: s) :: if accepts b then runRests accepts s else []

/-- What may be left of a byte string behind the pattern. -/
def rests : Pattern → List UInt8 → List (List UInt8)
  | empty, s => [s]
  | byte _, [] => []
  | byte accepts, b :: s => if accepts b then [s] else []
  | run accepts, s => runRests accepts s
  | append p q, s => ((p.rests s).flatMap q.rests).eraseDups
  | either p q, s => p.rests s ++ q.rests s

/-- The pattern accepts the whole byte string. -/
def admits (p : Pattern) (s : List UInt8) : Bool := (p.rests s).contains []

/-- A sequence of patterns. -/
def sequence (ps : List Pattern) : Pattern := ps.foldr append empty

/-- A choice of patterns; the choice of none asks for nothing. -/
def oneOf : List Pattern → Pattern
  | [] => empty
  | [p] => p
  | p :: ps => either p (oneOf ps)

/-! ## What the matcher finds -/

theorem mem_runRests {accepts : UInt8 → Bool} {s r : List UInt8} :
    r ∈ runRests accepts s ↔ ∃ m, s = m ++ r ∧ ∀ b ∈ m, accepts b = true := by
  induction s with
  | nil =>
    simp only [runRests, List.mem_singleton]
    exact ⟨fun h => ⟨[], by simp [h]⟩, fun ⟨m, h, _⟩ => (List.append_eq_nil_iff.1 h.symm).2⟩
  | cons b s ih =>
    rw [runRests, List.mem_cons]
    constructor
    · rintro (rfl | h)
      · exact ⟨[], by simp⟩
      · split at h
        · next hb =>
          obtain ⟨m, rfl, hm⟩ := ih.1 h
          exact ⟨b :: m, by simp, by simpa [hb] using hm⟩
        · cases h
    · rintro ⟨m, h, hm⟩
      cases m with
      | nil => exact .inl h.symm
      | cons c m =>
        obtain ⟨rfl, rfl⟩ := List.cons.inj h
        have hb : accepts b = true := hm b (by simp)
        rw [if_pos hb]
        exact .inr (ih.2 ⟨m, rfl, fun x hx => hm x (by simp [hx])⟩)

theorem mem_rests {p : Pattern} {s r : List UInt8} :
    r ∈ p.rests s ↔ ∃ m, s = m ++ r ∧ p.Accepts m := by
  induction p generalizing s r with
  | empty => simp [rests, Accepts, eq_comm]
  | byte accepts =>
    cases s with
    | nil =>
      simp only [rests, List.not_mem_nil, Accepts, false_iff, not_exists, not_and]
      rintro m h b rfl
      simp at h
    | cons b s =>
      constructor
      · intro h
        rw [rests] at h
        split at h
        · next hb => exact ⟨[b], by simp_all, b, rfl, hb⟩
        · cases h
      · rintro ⟨_, h, c, rfl, hc⟩
        obtain ⟨rfl, rfl⟩ := List.cons.inj h
        simp [rests, hc]
  | run accepts => exact mem_runRests
  | append p q ihp ihq =>
    simp only [rests, List.mem_eraseDups, List.mem_flatMap, ihp, ihq, Accepts]
    constructor
    · rintro ⟨_, ⟨u, rfl, hu⟩, v, rfl, hv⟩
      exact ⟨u ++ v, by simp, u, v, rfl, hu, hv⟩
    · rintro ⟨_, rfl, u, v, rfl, hu, hv⟩
      exact ⟨v ++ r, ⟨u, by simp, hu⟩, v, rfl, hv⟩
  | either p q ihp ihq =>
    simp only [rests, List.mem_append, ihp, ihq, Accepts]
    constructor
    · rintro (⟨m, h, hm⟩ | ⟨m, h, hm⟩)
      · exact ⟨m, h, .inl hm⟩
      · exact ⟨m, h, .inr hm⟩
    · rintro ⟨m, h, hm | hm⟩
      · exact .inl ⟨m, h, hm⟩
      · exact .inr ⟨m, h, hm⟩

theorem admits_iff {p : Pattern} {s : List UInt8} : p.admits s = true ↔ p.Accepts s := by
  simp [admits, mem_rests]

end Pattern

end GlyphFold.Glob
