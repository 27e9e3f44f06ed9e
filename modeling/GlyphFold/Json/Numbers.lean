import GlyphFold.Json.Strings

/-!
# Reading JSON numbers

A number without fraction and exponent that fits 64 bits is an integer; every other number is a float.
A float is read in one pass: as many digits as fit 64 bits make the significand, each further one in
front of the point counts in the exponent, and a power of ten then multiplies or divides. So the last
place of a long number is not always the nearest one.
-/

namespace GlyphFold.Json

inductive Number where
  | integer (n : Int)
  | float (x : Float)
  deriving Repr

def Number.found : Number → Found
  | integer n => .integer n
  | float x => .float x

def digitValue (c : Char) : Nat := c.toNat - '0'.toNat

/-- Appends digits to a significand while it fits 64 bits; the number of digits that did. -/
def appendDigits (significand : Nat) : List Char → Nat × Nat
  | [] => (significand, 0)
  | d :: ds =>
    let next := 10 * significand + digitValue d
    if next < UInt64.size then
      let (significand, count) := appendDigits next ds
      (significand, count + 1)
    else (significand, 0)

/-- `10 ^ n`, for `n` up to 308. -/
def powerOfTen (n : Nat) : Float := Float.ofScientific 1 false n

/-- `significand · 10 ^ exponent`, with every step rounded. -/
def scaleFloat (significand : Nat) (exponent : Int) : Except Fault Float :=
  let x := Float.ofNat significand
  let down := exponent.natAbs
  if 0 ≤ exponent then
    if significand = 0 then .ok 0
    else if 308 < exponent then .error .numberOutOfRange
    else
      let scaled := x * powerOfTen exponent.toNat
      if scaled.isInf then .error .numberOutOfRange else .ok scaled
  else if down ≤ 308 then .ok (x / powerOfTen down)
  else if down ≤ 616 then .ok (x / powerOfTen 308 / powerOfTen (down - 308))
  else .ok 0

def signed (positive : Bool) (x : Float) : Float := if positive then x else -x

def floatOf (positive : Bool) (significand : Nat) (exponent : Int) (rest : List Char) :
    Scanned Number :=
  (scaleFloat significand exponent).map fun x => (.float (signed positive x), rest)

def digitsAhead (cs : List Char) : List Char := cs.takeWhile Char.isDigit

def behindDigits (cs : List Char) : List Char := cs.dropWhile Char.isDigit

/-- A digit must stand here. -/
def noDigitFault : List Char → Fault
  | [] => .valueUnfinished
  | _ => .invalidNumber

/-- The exponent behind its mark. One that is too large for 32 bits makes a number zero or is out of
range. -/
def exponentPart (positive : Bool) (significand : Nat) (start : Int) (cs : List Char) :
    Scanned Number :=
  let down := cs.head? == some '-'
  let cs := if down || cs.head? == some '+' then cs.drop 1 else cs
  let digits := digitsAhead cs
  let rest := behindDigits cs
  let exponent := digits.foldl (fun n d => 10 * n + digitValue d) 0
  if digits.isEmpty then .error (noDigitFault cs)
  else if Nat.pow 2 31 ≤ exponent then
    if significand ≠ 0 && !down then .error .numberOutOfRange
    else .ok (.float (signed positive 0), rest)
  else floatOf positive significand (if down then start - exponent else start + exponent) rest

def isExponentMark (c : Char) : Bool := c == 'e' || c == 'E'

/-- The fraction behind the point. -/
def fractionPart (positive : Bool) (significand : Nat) (start : Int) (cs : List Char) :
    Scanned Number :=
  let digits := digitsAhead cs
  let (significand, count) := appendDigits significand digits
  if digits.isEmpty then .error (noDigitFault cs)
  else match behindDigits cs with
    | [] => floatOf positive significand (start - count) []
    | c :: rest =>
      if isExponentMark c then exponentPart positive significand (start - count) rest
      else floatOf positive significand (start - count) (c :: rest)

/-- The integer with a sign; minus zero and what lies below 64 bits are floats. -/
def integerOf (positive : Bool) (magnitude : Nat) : Number :=
  if positive then .integer magnitude
  else if magnitude = 0 ∨ Nat.pow 2 63 < magnitude then .float (-Float.ofNat magnitude)
  else .integer (-magnitude)

/-- A number behind its sign. -/
def unsignedNumber (positive : Bool) (cs : List Char) : Scanned Number :=
  let digits := digitsAhead cs
  let (significand, count) := appendDigits 0 digits
  let more : Int := digits.length - count
  if digits.isEmpty then .error (noDigitFault cs)
  else if digits.head? = some '0' ∧ 1 < digits.length then .error .invalidNumber
  else match behindDigits cs with
    | [] =>
      if more = 0 then .ok (integerOf positive significand, [])
      else floatOf positive significand more []
    | c :: rest =>
      if c == '.' then fractionPart positive significand more rest
      else if isExponentMark c then exponentPart positive significand more rest
      else if more = 0 then .ok (integerOf positive significand, c :: rest)
      else floatOf positive significand more (c :: rest)

/-! ## Passing numbers -/

def skipExponent (cs : List Char) : Except Fault (List Char) :=
  let cs := if cs.head? == some '-' || cs.head? == some '+' then cs.drop 1 else cs
  if (digitsAhead cs).isEmpty then .error .invalidNumber else .ok (behindDigits cs)

def skipFraction (cs : List Char) : Except Fault (List Char) :=
  if (digitsAhead cs).isEmpty then .error .invalidNumber
  else match behindDigits cs with
    | [] => .ok []
    | c :: rest => if isExponentMark c then skipExponent rest else .ok (c :: rest)

/-- Passes a number behind its sign. -/
def skipNumber (cs : List Char) : Except Fault (List Char) :=
  let digits := digitsAhead cs
  if digits.isEmpty ∨ (digits.head? = some '0' ∧ 1 < digits.length) then .error .invalidNumber
  else match behindDigits cs with
    | [] => .ok []
    | c :: rest =>
      if c == '.' then skipFraction rest
      else if isExponentMark c then skipExponent rest
      else .ok (c :: rest)

end GlyphFold.Json
