/-!
# Sets of code points

A property of characters is stored as its sorted list of closed ranges; `covers` stops at the first
range that starts after the code point. `isBlank` is the Unicode property
White_Space, and `trim` removes it from both ends.
-/

namespace GlyphFold.Text

/-- A code point lies in one of the ranges, which are given in increasing order. -/
def covers : List (Nat × Nat) → Nat → Bool
  | [], _ => false
  | (low, high) :: rest, n => if n < low then false else n ≤ high || covers rest n

theorem exists_range_of_covers {ranges : List (Nat × Nat)} {n : Nat} (h : covers ranges n = true) :
    ∃ r ∈ ranges, r.1 ≤ n ∧ n ≤ r.2 := by
  induction ranges with
  | nil => cases h
  | cons r rest ih =>
    rw [covers] at h
    split at h
    · cases h
    · rcases Bool.or_eq_true _ _ ▸ h with h | h
      · exact ⟨r, by simp, by omega, by simpa using h⟩
      · obtain ⟨q, hq, hn⟩ := ih h
        exact ⟨q, by simp [hq], hn⟩

/-! ## Blanks -/

/-- White_Space. -/
def blankRanges : List (Nat × Nat) :=
  [(0x9, 0xD), (0x20, 0x20), (0x85, 0x85), (0xA0, 0xA0), (0x1680, 0x1680), (0x2000, 0x200A),
   (0x2028, 0x2029), (0x202F, 0x202F), (0x205F, 0x205F), (0x3000, 0x3000)]

def isBlank (c : Char) : Bool := covers blankRanges c.toNat

/-- The text without the blanks at its end. -/
def trimRight (cs : List Char) : List Char := (cs.reverse.dropWhile isBlank).reverse

/-- The text without the blanks at its start and at its end. -/
def trimChars (cs : List Char) : List Char := trimRight (cs.dropWhile isBlank)

/-- `trimChars` on strings. -/
def trim (s : String) : String := String.ofList (trimChars s.toList)

end GlyphFold.Text
