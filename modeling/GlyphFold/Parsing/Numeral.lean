/-!
# Numerals

How far a number reaches: digits in groups, a fraction, an exponent, another radix behind `0x`, `0o`
or `0b`, and a letter at the end for a kind of number. A letter that fits none of these still
belongs to the number, so that `1alpha` is one token.
-/

namespace GlyphFold.Parsing

/-- The digits ahead, which `_` may group. -/
def digitRun (cs : List Char) : Nat := (cs.takeWhile fun c => c.isDigit || c == '_').length

/-- The exponent ahead. -/
def exponentLength : List Char → Nat
  | [] => 0
  | c :: rest =>
    let sign := (rest.take 1).countP fun s => s == '+' || s == '-'
    let digits := digitRun (rest.drop sign)
    if (c == 'e' || c == 'E') && 0 < digits then 1 + sign + digits else 0

/-- The fraction ahead. Behind a whole part the digits may be missing. -/
def fractionLength (afterWhole : Bool) : List Char → Nat
  | '.' :: rest =>
    let digits := if rest.head? == some '_' then 0 else digitRun rest
    if afterWhole || 0 < digits then 1 + digits else 0
  | _ => 0

/-- The digits ahead with their radix mark. -/
def radixLength : List Char → Nat
  | '0' :: mark :: rest =>
    if "xXoObB".contains mark then
      2 + (rest.takeWhile fun c => c.isAlphanum || c == '_').length
    else 0
  | _ => 0

/-- The number ahead. -/
def numeralLength (suffixes : List Char) (cs : List Char) : Nat :=
  let radix := radixLength cs
  if 0 < radix then radix
  else
    let whole := if cs.head?.any Char.isDigit then digitRun cs else 0
    let mantissa := whole + fractionLength (0 < whole) (cs.drop whole)
    if mantissa = 0 then 0
    else
      let length := mantissa + exponentLength (cs.drop mantissa)
      length + ((cs.drop length).take 1).countP suffixes.contains

example : numeralLength ['j'] "1_000.5e-3j+1".toList = 11 := by decide +kernel

example : numeralLength [] ".x".toList = 0 := by decide +kernel

end GlyphFold.Parsing
