/-!
# Finite binary numbers

A finite float is `m · 2 ^ e` with a sign. The numbers that round to it fill the interval `Binary.low`
to `Binary.high`, both counted in quarters of its last place, with its ends when `m` is even.
`Binary.fixed` writes it with a fixed number of decimal places: the quotient is rounded to the
nearest integer, and a tie goes to the even one.
-/

namespace GlyphFold.Decimal

structure Binary where
  negative : Bool
  significand : Nat
  exponent : Int
  deriving DecidableEq, Repr

namespace Binary

/-- The number of a 64-bit word; none when it is infinite or no number. -/
def ofBits? (bits : Nat) : Option Binary :=
  let fraction : Nat := bits % Nat.pow 2 52
  let biased : Nat := bits / Nat.pow 2 52 % Nat.pow 2 11
  let negative := decide (Nat.pow 2 63 ≤ bits)
  if biased = 2047 then none
  else if biased = 0 then some ⟨negative, fraction, -1074⟩
  else some ⟨negative, Nat.pow 2 52 + fraction, (biased : Int) - 1075⟩

def ofFloat? (x : Float) : Option Binary := ofBits? x.toBits.toNat

/-- The number in quarters of its last place. -/
def middle (b : Binary) : Nat := 4 * b.significand

/-- Below a power of two the floats lie twice as close. -/
def low (b : Binary) : Nat :=
  if b.significand = Nat.pow 2 52 ∧ -1074 < b.exponent then b.middle - 1 else b.middle - 2

def high (b : Binary) : Nat := b.middle + 2

end Binary

/-! ## A fixed number of places -/

/-- The integer nearest to `num / den`; of two equally near ones the even one. -/
def roundDiv (num den : Nat) : Nat :=
  let below := num / den
  let rest := num % den
  if 2 * rest < den ∨ (2 * rest = den ∧ below % 2 = 0) then below else below + 1

/-- The number with the given places behind its point. -/
def Binary.fixed (places : Nat) (b : Binary) : String :=
  let scale := Nat.pow 10 places
  let scaled := roundDiv (b.significand * Nat.pow 2 b.exponent.toNat * scale)
    (Nat.pow 2 (-b.exponent).toNat)
  let fraction := Nat.toDigits 10 (scaled % scale)
  String.ofList ((if b.negative then ['-'] else []) ++ Nat.toDigits 10 (scaled / scale) ++
    '.' :: List.replicate (places - fraction.length) '0' ++ fraction)

example : (Binary.ofBits? 0x3FC0000000000000).map (Binary.fixed 2) = some "0.12" := by
  decide +kernel

end GlyphFold.Decimal
