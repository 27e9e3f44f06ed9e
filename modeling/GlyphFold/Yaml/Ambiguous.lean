/-!
# Texts that read as something else than a string

Written plain, some strings would be read back as null, a boolean or a number. Numbers may have a sign
and a radix mark and are bounded by 128 bits; floats are decimals that a 64-bit float can hold, and the
words for infinity and for no number.
-/

namespace GlyphFold.Yaml

def isNull (s : String) : Bool := ["", "null", "Null", "NULL", "~"].contains s

def isBoolean (s : String) : Bool := ["true", "True", "TRUE", "false", "False", "FALSE"].contains s

/-- The value of digits in a radix. -/
def digitsValue? (radix : Nat) (cs : List Char) : Option Nat :=
  if cs.isEmpty then none
  else cs.foldlM (fun n c =>
    let d :=
      if c.isDigit then c.toNat - '0'.toNat
      else if 'a' ≤ c ∧ c ≤ 'f' then c.toNat - 'a'.toNat + 10
      else if 'A' ≤ c ∧ c ≤ 'F' then c.toNat - 'A'.toNat + 10
      else radix
    if d < radix then some (radix * n + d) else none) 0

/-- The magnitude of an integer behind its sign. -/
def magnitude? : List Char → Option Nat
  | '0' :: 'x' :: cs => digitsValue? 16 cs
  | '0' :: 'o' :: cs => digitsValue? 8 cs
  | '0' :: 'b' :: cs => digitsValue? 2 cs
  | cs => digitsValue? 10 cs

/-- A sign and the text behind it; no sign is `+`. -/
def splitSign : List Char → Char × List Char
  | '+' :: cs => ('+', cs)
  | '-' :: cs => ('-', cs)
  | cs => ('+', cs)

/-- Digits of which the first is a zero and not the only one. -/
def hasLeadingZero (cs : List Char) : Bool :=
  let digits := (splitSign cs).2
  digits.head? == some '0' && 1 < digits.length && digits.all Char.isDigit

def isInteger (cs : List Char) : Bool :=
  match splitSign cs with
  | ('-', digits) => !hasLeadingZero cs && (magnitude? digits).any (· ≤ Nat.pow 2 127)
  | (_, digits) => !hasLeadingZero cs && (magnitude? digits).any (· < Nat.pow 2 128)

/-- The digits of a decimal and the exponent that counts from its last one. -/
def decimal? (cs : List Char) : Option (Nat × Int) :=
  let whole := cs.takeWhile Char.isDigit
  let rest := cs.dropWhile Char.isDigit
  let (fraction, rest) := match rest with
    | '.' :: rest => (rest.takeWhile Char.isDigit, rest.dropWhile Char.isDigit)
    | rest => ([], rest)
  match digitsValue? 10 (whole ++ fraction), rest with
  | none, _ => none
  | some digits, [] => some (digits, -fraction.length)
  | some digits, e :: exponent =>
    if e = 'e' ∨ e = 'E' then
      let (sign, exponent) := splitSign exponent
      (digitsValue? 10 exponent).map fun n =>
        (digits, (if sign = '-' then -(n : Int) else n) - fraction.length)
    else none

/-- From here on a number rounds to infinity. -/
def floatLimit : Nat := Nat.pow 2 1024 - Nat.pow 2 970

/-- `digits · 10 ^ exponent` is a finite float. Exponents beyond all floats are told by themselves. -/
def isFinite (digits : Nat) (exponent : Int) : Bool :=
  digits == 0 || exponent < 0 && digits < floatLimit * Nat.pow 10 (-exponent).toNat ||
    0 ≤ exponent && exponent ≤ 400 && digits * Nat.pow 10 exponent.toNat < floatLimit

def isFloat (s : String) : Bool :=
  let cs := s.toList
  let unsigned := if cs.head? = some '+' then cs.drop 1 else cs
  let doubled := cs.head? = some '+' ∧ (unsigned.head? = some '+' ∨ unsigned.head? = some '-')
  !doubled &&
    ([".inf", ".Inf", ".INF"].contains (String.ofList unsigned) ||
      ["-.inf", "-.Inf", "-.INF", ".nan", ".NaN", ".NAN"].contains s ||
      (decimal? (splitSign unsigned).2).any fun (digits, exponent) => isFinite digits exponent)

/-- The text does not read as a string; digits behind a zero are ambiguous as well. -/
def isAmbiguous (s : String) : Bool :=
  isNull s || isBoolean s || isInteger s.toList || hasLeadingZero s.toList || isFloat s

example : ["1e3", "01", "5.", "0x1F", "-.inf", "+1"].all isAmbiguous = true := by decide +kernel

example : ["yes", "1_000", "1e", "0x", "1e400", "inf"].any isAmbiguous = false := by decide +kernel

end GlyphFold.Yaml
