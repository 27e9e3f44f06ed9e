import GlyphFold.Toml.Strings

/-!
# Reading TOML: numbers, dates and times

Integers must fit 64 bits with their sign. Underscores may stand between digits.

1. `integer`, `float`
2. `dateTime`
-/

namespace GlyphFold.Toml.Reader

/-! ## Numbers -/

def isSign (c : Char) : Bool := c = '+' || c = '-'

/-- Digits of a class, with underscores between them. -/
def digits (accepts : Char → Bool) : Reader Unit := do
  let _ ← one accepts
  let _ ← many do
    let _ ← maybe (exactly "_")
    one accepts

/-- A sign and a decimal number that starts with no zero but its only digit. -/
def decimal : Reader Unit := do
  let _ ← maybe (one isSign)
  if (← get).head? = some '0' then exactly "0" else digits Char.isDigit

def withoutUnderscores (cs : List Char) : List Char := cs.filter (· ≠ '_')

def integerOf (n : Int) : Reader Value :=
  let bound : Int := Nat.pow 2 63
  if -bound ≤ n ∧ n < bound then return .integer n else failure

/-- An integer of another base, behind the mark of the base. -/
def basedInteger (mark : String) (base : Nat) (accepts : Char → Bool) : Reader Value := do
  exactly mark
  let cs ← taken (digits accepts)
  let value := (withoutUnderscores cs).foldl (fun n d => base * n + hexValue [d]) 0
  integerOf value

def magnitude (cs : List Char) : Nat := cs.foldl (fun n d => 10 * n + hexValue [d]) 0

/-- The integer of a sign and digits. -/
def signedValue (cs : List Char) : Int :=
  match withoutUnderscores cs with
  | '-' :: ds => -magnitude ds
  | '+' :: ds => magnitude ds
  | ds => magnitude ds

def integer : Reader Value :=
  basedInteger "0x" 16 isHexDigit <|>
  basedInteger "0o" 8 (fun c => '0' ≤ c && c ≤ '7') <|>
  basedInteger "0b" 2 (fun c => c = '0' || c = '1') <|> do
    integerOf (signedValue (← taken decimal))

def fraction : Reader Unit := do
  exactly "."
  digits Char.isDigit

def exponent : Reader Unit := do
  exactly "e" <|> exactly "E"
  let _ ← maybe (one isSign)
  digits Char.isDigit

/-- `n · 10 ^ e` rounds to infinity: it reaches the middle between the largest float and the power of
two behind it. -/
def overflows (n : Nat) (e : Int) : Bool :=
  let bound := Nat.pow 2 1024 - Nat.pow 2 970
  let order : Int := (Nat.toDigits 10 n).length + e
  if n = 0 || order < 300 then false
  else if 400 < order then true
  else bound * Nat.pow 10 (-e).toNat ≤ n * Nat.pow 10 e.toNat

/-- The float of a sign, digits and perhaps a fraction and an exponent is too large. -/
def isTooLarge (cs : List Char) : Bool :=
  let cs := withoutUnderscores cs
  let mantissa := cs.takeWhile fun c => c ≠ 'e' && c ≠ 'E'
  let places := (mantissa.dropWhile (· ≠ '.')).length - 1
  cs.head? ≠ some '-' &&
    overflows (magnitude (mantissa.filter Char.isDigit))
      (signedValue (cs.drop (mantissa.length + 1)) - places)

def float : Reader Value := (do
    let cs ← taken do
      decimal
      exponent <|> do
        fraction
        let _ ← maybe exponent
    if isTooLarge cs then failure else return .float (String.ofList cs)) <|> do
  let cs ← taken do
    let _ ← maybe (one isSign)
    exactly "inf" <|> exactly "nan"
  return .float (String.ofList cs)

/-! ## Dates and times -/

/-- A number of so many digits, within bounds. -/
def field (width low high : Nat) : Reader Nat := do
  let cs ← (List.replicate width (one Char.isDigit)).mapM id
  let n := magnitude cs
  if low ≤ n && n ≤ high then return n else failure

def daysIn (year month : Nat) : Nat :=
  match month with
  | 2 => if year % 4 = 0 && (year % 100 ≠ 0 || year % 400 = 0) then 29 else 28
  | 4 | 6 | 9 | 11 => 30
  | _ => 31

def date : Reader Unit := do
  let year ← field 4 0 9999
  exactly "-"
  let month ← field 2 1 12
  exactly "-"
  let _ ← field 2 1 (daysIn year month)

def hourAndMinute : Reader Unit := do
  let _ ← field 2 0 23
  exactly ":"
  let _ ← field 2 0 59

def time : Reader Unit := do
  hourAndMinute
  exactly ":"
  let _ ← field 2 0 60
  let _ ← maybe do
    exactly "."
    let _ ← one Char.isDigit
    whileOf Char.isDigit

def offset : Reader Unit := exactly "Z" <|> exactly "z" <|> do
  let _ ← one isSign
  hourAndMinute

def dateTime : Reader Value := do
  let cs ← taken ((do
    date
    let _ ← maybe do
      exactly "T" <|> exactly "t" <|> exactly " "
      time
      maybe offset) <|> time)
  return .dateTime (String.ofList cs)

end GlyphFold.Toml.Reader
