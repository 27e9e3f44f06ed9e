import GlyphFold.Decimal.Binary

/-!
# Shortest decimals

`Binary.shortest` writes a number with the fewest digits that still round to it, and with the nearest
of those; of two equally near ones the even one counts. Points of a decimal grid are compared with
quarters of a last place as natural numbers, so nothing is rounded on the way.
-/

namespace GlyphFold.Decimal

/-- `digits · 10 ^ exponent`. -/
structure Scientific where
  digits : Nat
  exponent : Int
  deriving DecidableEq, Repr

/-- How many decimal digits a number has. -/
def digitCount (n : Nat) : Nat := (Nat.toDigits 10 n).length

namespace Binary

/-- A count of quarters of the last place, on a scale where it compares with points of the grid of
`10 ^ exponent`. -/
def scaled (b : Binary) (exponent : Int) (quarters : Nat) : Nat :=
  quarters * Nat.pow 2 (b.exponent - 2).toNat * Nat.pow 10 (-exponent).toNat

/-- The step of the grid of `10 ^ exponent` on the same scale. -/
def step (b : Binary) (exponent : Int) : Nat :=
  Nat.pow 10 exponent.toNat * Nat.pow 2 (2 - b.exponent).toNat

/-- A point of a grid rounds to the number. -/
def admits (b : Binary) (exponent : Int) (point : Nat) : Bool :=
  let low := b.scaled exponent b.low
  let high := b.scaled exponent b.high
  let place := point * b.step exponent
  if b.significand % 2 = 0 then low ≤ place && place ≤ high else low < place && place < high

/-- The point of a grid next to the number among those that round to it. -/
def nearest? (b : Binary) (exponent : Int) : Option Nat :=
  let middle := b.scaled exponent b.middle
  let step := b.step exponent
  let below := middle / step
  match b.admits exponent below, b.admits exponent (below + 1) with
  | false, false => none
  | true, false => some below
  | false, true => some (below + 1)
  | true, true =>
    let past := middle - below * step
    let left := (below + 1) * step - middle
    some (if past < left ∨ (past = left ∧ below % 2 = 0) then below else below + 1)

/-- The exponent of the first digit. Every number but zero is at least `10 ^ -400`. -/
def leadingExponent (b : Binary) : Int :=
  digitCount (b.scaled (-400) b.middle / b.step (-400)) - 401

/-- The first of the grids with 1, 2, … digits that has a point. -/
def shortestWithin (b : Binary) : (count : Nat) → (digits : Nat) → Scientific
  | 0, _ => ⟨0, 0⟩
  | count + 1, digits =>
    let exponent := b.leadingExponent + 1 - digits
    match b.nearest? exponent with
    | some point => ⟨point, exponent⟩
    | none => shortestWithin b count (digits + 1)

/-- The shortest decimal that rounds to the number; seventeen digits always do. -/
def shortest (b : Binary) : Scientific := if b.significand = 0 then ⟨0, 0⟩ else b.shortestWithin 17 1

end Binary

/-! ## Writing -/

/-- A decimal with a point in it: positional from `0.00001` up to sixteen digits in front of the point,
and with an exponent elsewhere. `plus` is the sign of a positive exponent. -/
def Scientific.text (plus : String) (d : Scientific) : List Char :=
  let all := Nat.toDigits 10 d.digits
  let digits := (all.reverse.dropWhile (· == '0')).reverse
  -- the digits stand behind a point that is moved this far to the right
  let point : Int := all.length + d.exponent
  if d.digits = 0 then "0.0".toList
  else if 0 < point ∧ point ≤ 16 then
    let whole := digits.take point.toNat
    let fraction := digits.drop point.toNat
    whole ++ List.replicate (point.toNat - whole.length) '0' ++
      '.' :: (if fraction.isEmpty then ['0'] else fraction)
  else if -5 < point ∧ point ≤ 0 then
    "0.".toList ++ List.replicate (-point).toNat '0' ++ digits
  else
    let fraction := digits.drop 1
    digits.take 1 ++ (if fraction.isEmpty then [] else '.' :: fraction) ++
      'e' :: (if 0 < point then plus.toList else ['-']) ++ Nat.toDigits 10 (point - 1).natAbs

/-- The shortest text of a number. -/
def Binary.text (plus : String) (b : Binary) : String :=
  String.ofList ((if b.negative then ['-'] else []) ++ b.shortest.text plus)

example : (Binary.ofBits? 0x3FB999999999999A).map (Binary.text "+") = some "0.1" := by
  decide +kernel

example : (Binary.ofBits? 1).map (Binary.text "+") = some "5e-324" := by decide +kernel

example : (Binary.ofBits? 0x4341C37937E08000).map (Binary.text "+") = some "1e+16" := by
  decide +kernel

end GlyphFold.Decimal
