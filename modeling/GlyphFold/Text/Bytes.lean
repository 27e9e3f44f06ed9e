/-!
# Byte offsets into a text

Every offset of the library counts the UTF-8 bytes before it. A text is a list of characters; an
offset that falls inside a character or past the end cuts nothing.

1. `Span`: a pair of offsets
2. `utf8`, `decode?`: texts as bytes and back
3. `byteSize`: the number of a text's bytes
4. `cut?`, `slice?`: the text on either side of an offset, the text of a range
5. `IsBoundary`: the offsets that cut a text
6. `charIndex?`, `charSlice?`: offsets as character indices, and texts cut at those
-/

namespace GlyphFold

/-- A pair of byte offsets. A span given from outside may be reversed; then it covers nothing. -/
structure Span where
  start : Nat
  stop : Nat
  deriving DecidableEq, Repr

end GlyphFold

namespace GlyphFold.Text

/-! ## Bytes -/

/-- The UTF-8 bytes of a text. -/
def utf8 (cs : List Char) : List UInt8 := cs.flatMap String.utf8EncodeChar

@[simp] theorem utf8_nil : utf8 [] = [] := rfl

@[simp] theorem utf8_cons (c : Char) (cs : List Char) :
    utf8 (c :: cs) = String.utf8EncodeChar c ++ utf8 cs := rfl

@[simp] theorem utf8_append (a b : List Char) : utf8 (a ++ b) = utf8 a ++ utf8 b :=
  List.flatMap_append

/-- The text of some bytes; none if they are no UTF-8. -/
def decode? (bytes : List UInt8) : Option String := String.fromUTF8? ⟨bytes.toArray⟩

/-! ## Sizes -/

/-- The number of UTF-8 bytes of a text. -/
def byteSize : List Char → Nat
  | [] => 0
  | c :: cs => c.utf8Size + byteSize cs

@[simp] theorem byteSize_nil : byteSize [] = 0 := rfl

@[simp] theorem byteSize_cons (c : Char) (cs : List Char) :
    byteSize (c :: cs) = c.utf8Size + byteSize cs := rfl

@[simp] theorem byteSize_append (a b : List Char) : byteSize (a ++ b) = byteSize a + byteSize b := by
  induction a with
  | nil => simp
  | cons c cs ih => simp [ih, Nat.add_assoc]

theorem byteSize_eq_zero {cs : List Char} : byteSize cs = 0 ↔ cs = [] := by
  cases cs with
  | nil => simp
  | cons c cs => simpa using fun h => absurd h (Nat.pos_iff_ne_zero.1 c.utf8Size_pos)

/-! ## Cutting -/

/-- The text before and after a byte offset. -/
def cut? : List Char → Nat → Option (List Char × List Char)
  | cs, 0 => some ([], cs)
  | [], _ + 1 => none
  | c :: cs, n + 1 =>
    if c.utf8Size ≤ n + 1 then
      (cut? cs (n + 1 - c.utf8Size)).map fun (before, after) => (c :: before, after)
    else none

@[simp] theorem cut?_zero (cs : List Char) : cut? cs 0 = some ([], cs) := by cases cs <;> rfl

theorem cut?_append (a b : List Char) : cut? (a ++ b) (byteSize a) = some (a, b) := by
  induction a with
  | nil => simp
  | cons c cs ih =>
    obtain ⟨k, hk⟩ := Nat.exists_eq_succ_of_ne_zero (Nat.pos_iff_ne_zero.1 c.utf8Size_pos)
    rw [byteSize_cons, hk, Nat.succ_add, List.cons_append, cut?]
    have h : c.utf8Size ≤ k + byteSize cs + 1 := by omega
    have hs : k + byteSize cs + 1 - c.utf8Size = byteSize cs := by omega
    simp [h, hs, ih]

theorem eq_append_of_cut? {cs a b : List Char} {n : Nat} (h : cut? cs n = some (a, b)) :
    cs = a ++ b ∧ byteSize a = n := by
  induction cs generalizing n a with
  | nil => cases n <;> simp_all [cut?]
  | cons c cs ih =>
    cases n with
    | zero => simp_all
    | succ n =>
      rw [cut?] at h
      split at h
      · obtain ⟨⟨a', b'⟩, hc, he⟩ := Option.map_eq_some_iff.1 h
        obtain ⟨rfl, rfl⟩ := Prod.mk.injEq .. ▸ he
        obtain ⟨rfl, hn⟩ := ih hc
        exact ⟨rfl, by simp [hn]; omega⟩
      · cases h

/-- An offset cuts a text exactly where some part of it ends. -/
theorem cut?_eq_some_iff {cs a b : List Char} {n : Nat} :
    cut? cs n = some (a, b) ↔ cs = a ++ b ∧ byteSize a = n :=
  ⟨eq_append_of_cut?, fun ⟨h, hn⟩ => by rw [h, ← hn, cut?_append]⟩

/-- The text between two offsets; nothing when they are reversed. -/
def slice? (cs : List Char) (start stop : Nat) : Option (List Char) :=
  if start ≤ stop then
    (cut? cs start).bind fun (_, rest) => (cut? rest (stop - start)).map Prod.fst
  else none

theorem slice?_eq_some_iff {cs m : List Char} {start stop : Nat} :
    slice? cs start stop = some m ↔
      ∃ a b, cs = a ++ m ++ b ∧ byteSize a = start ∧ start + byteSize m = stop := by
  unfold slice?
  split
  · next hle =>
    simp only [Option.bind_eq_some_iff, Option.map_eq_some_iff, Prod.exists, cut?_eq_some_iff]
    constructor
    · rintro ⟨a, r, ⟨rfl, ha⟩, m', b, ⟨rfl, hm⟩, rfl⟩
      exact ⟨a, b, by simp, ha, by omega⟩
    · rintro ⟨a, b, rfl, ha, hm⟩
      exact ⟨a, m ++ b, ⟨by simp, ha⟩, m, b, ⟨rfl, by omega⟩, rfl⟩
  · next hlt =>
    simp only [reduceCtorEq, false_iff, not_exists]
    rintro a b ⟨-, -, h⟩
    omega

/-! ## Boundaries -/

/-- The offset lies between two characters, or at an end of the text. -/
def IsBoundary (cs : List Char) (n : Nat) : Prop := ∃ a b, cs = a ++ b ∧ byteSize a = n

theorem IsBoundary.le_byteSize {cs : List Char} {n : Nat} (h : IsBoundary cs n) :
    n ≤ byteSize cs := by
  obtain ⟨a, b, rfl, rfl⟩ := h
  rw [byteSize_append]
  exact Nat.le_add_right _ _

theorem isBoundary_iff_cut? {cs : List Char} {n : Nat} :
    IsBoundary cs n ↔ (cut? cs n).isSome = true := by
  rw [Option.isSome_iff_exists]
  constructor
  · rintro ⟨a, b, hcs, ha⟩
    exact ⟨(a, b), cut?_eq_some_iff.2 ⟨hcs, ha⟩⟩
  · rintro ⟨⟨a, b⟩, h⟩
    exact ⟨a, b, cut?_eq_some_iff.1 h⟩

instance (cs : List Char) (n : Nat) : Decidable (IsBoundary cs n) :=
  decidable_of_iff _ isBoundary_iff_cut?.symm

/-- Two prefixes of a text are comparable by size. -/
theorem append_of_byteSize_le {a b a' b' : List Char} (h : a ++ b = a' ++ b')
    (hle : byteSize a ≤ byteSize a') : ∃ m, a' = a ++ m ∧ b = m ++ b' := by
  rcases List.append_eq_append_iff.1 h with ⟨m, ha', hb⟩ | ⟨m, ha, hb'⟩
  · exact ⟨m, ha', hb⟩
  · have hm : byteSize m = 0 := by
      rw [ha, byteSize_append] at hle
      omega
    obtain rfl := byteSize_eq_zero.1 hm
    exact ⟨[], by simpa using ha.symm, by simpa using hb'.symm⟩

/-- A text is split at a place in one way. -/
theorem append_inj_of_byteSize {a b a' b' : List Char} (h : a ++ b = a' ++ b')
    (hsize : byteSize a = byteSize a') : a = a' ∧ b = b' := by
  have hcut := cut?_append a b
  rw [h, hsize, cut?_append] at hcut
  obtain ⟨rfl, rfl⟩ := Prod.mk.inj (Option.some.inj hcut)
  exact ⟨rfl, rfl⟩

/-! ## Character indices -/

/-- The characters that end at or before an offset. -/
def charsBefore : List Char → Nat → List Char
  | [], _ => []
  | c :: cs, n => if c.utf8Size ≤ n then c :: charsBefore cs (n - c.utf8Size) else []

theorem charsBefore_zero (cs : List Char) : charsBefore cs 0 = [] := by
  cases cs with
  | nil => rfl
  | cons c cs => simp [charsBefore, Nat.pos_iff_ne_zero.1 c.utf8Size_pos]

theorem charsBefore_append (a b : List Char) : charsBefore (a ++ b) (byteSize a) = a := by
  induction a with
  | nil => exact charsBefore_zero b
  | cons c cs ih => simp [charsBefore, ih]

theorem length_charsBefore_mono (cs : List Char) {m n : Nat} (h : m ≤ n) :
    (charsBefore cs m).length ≤ (charsBefore cs n).length := by
  induction cs generalizing m n with
  | nil => exact Nat.le_refl 0
  | cons c cs ih =>
    unfold charsBefore
    by_cases hm : c.utf8Size ≤ m
    · rw [if_pos hm, if_pos (Nat.le_trans hm h)]
      exact Nat.succ_le_succ (ih (Nat.sub_le_sub_right h _))
    · rw [if_neg hm]
      exact Nat.zero_le _

theorem length_charsBefore_le (cs : List Char) (n : Nat) :
    (charsBefore cs n).length ≤ cs.length := by
  induction cs generalizing n with
  | nil => exact Nat.le_refl 0
  | cons c cs ih =>
    unfold charsBefore
    split
    · exact Nat.succ_le_succ (ih _)
    · exact Nat.zero_le _

/-- The index of the character at an offset, or inside of which it lies; fails past the end. -/
def charIndex? (cs : List Char) (n : Nat) : Option Nat :=
  if n ≤ byteSize cs then some (charsBefore cs n).length else none

/-- The characters from one index up to another; fails on reversed indices and past the end. -/
def charSlice? (cs : List Char) (i j : Nat) : Option (List Char) :=
  if i ≤ j ∧ j ≤ cs.length then some ((cs.take j).drop i) else none

theorem charSlice?_isSome {cs : List Char} {i j : Nat} (hij : i ≤ j) (hj : j ≤ cs.length) :
    (charSlice? cs i j).isSome := by
  unfold charSlice?
  rw [if_pos ⟨hij, hj⟩]
  rfl

theorem charIndex?_of_le {cs : List Char} {n : Nat} (h : n ≤ byteSize cs) :
    charIndex? cs n = some (charsBefore cs n).length := if_pos h

theorem charIndex?_append (a b : List Char) :
    charIndex? (a ++ b) (byteSize a) = some a.length := by
  unfold charIndex?
  rw [if_pos (by simp), charsBefore_append]

theorem charSlice?_append (a m b : List Char) :
    charSlice? (a ++ m ++ b) a.length (a ++ m).length = some m := by
  unfold charSlice?
  rw [if_pos (by simp), List.take_left, List.drop_left]

end GlyphFold.Text
