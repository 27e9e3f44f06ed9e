/-!
# Dates and times

An instant counts seconds from the start of 1970 in Greenwich, with nanoseconds behind it; a leap
second is the last second of its minute with a thousand million nanoseconds or more. Dates are of the
Gregorian calendar, reckoned back before its start.
-/

namespace GlyphFold

structure Instant where
  seconds : Int
  nanos : Nat
  deriving DecidableEq, Repr

structure DateTime where
  year : Int
  month : Nat
  day : Nat
  hour : Nat
  minute : Nat
  second : Nat
  nanos : Nat
  deriving DecidableEq, Repr

namespace DateTime

/-- Year, month and day of a day counted from the start of 1970. The reckoning goes by years that
begin in March and by periods of 400 years. -/
def ofDays (days : Int) : Int × Nat × Nat :=
  let fromMarch := days + 719468
  let period := fromMarch / 146097
  let day := (fromMarch % 146097).toNat
  let year := (day - day / 1460 + day / 36524 - day / 146096) / 365
  let dayOfYear := day - (365 * year + year / 4 - year / 100)
  let month := (5 * dayOfYear + 2) / 153
  let dayOfMonth := dayOfYear - (153 * month + 2) / 5 + 1
  if month < 10 then (year + period * 400, month + 3, dayOfMonth)
  else (year + period * 400 + 1, month - 9, dayOfMonth)

def ofInstant (t : Instant) : DateTime :=
  let (year, month, day) := ofDays (t.seconds / 86400)
  let second := (t.seconds % 86400).toNat
  { year, month, day
    hour := second / 3600
    minute := second / 60 % 60
    second := second % 60 + t.nanos / 1000000000
    nanos := t.nanos % 1000000000 }

/-- A number with zeros in front, up to a width. -/
def padded (width n : Nat) : String :=
  let digits := toString n
  String.ofList (List.replicate (width - digits.length) '0') ++ digits

/-- A year has four digits; outside of those it has a sign. -/
def yearText (year : Int) : String :=
  let digits := padded 4 year.natAbs
  if year < 0 then "-" ++ digits else if 9999 < year then "+" ++ digits else digits

/-- The fraction of a second in three, six or nine digits, as few as hold it. -/
def fractionText (nanos : Nat) : String :=
  if nanos = 0 then ""
  else if nanos % 1000000 = 0 then "." ++ padded 3 (nanos / 1000000)
  else if nanos % 1000 = 0 then "." ++ padded 6 (nanos / 1000)
  else "." ++ padded 9 nanos

/-- The date and time of day in the form of RFC 3339. -/
def text (d : DateTime) : String :=
  yearText d.year ++ "-" ++ padded 2 d.month ++ "-" ++ padded 2 d.day ++ "T" ++ padded 2 d.hour ++
    ":" ++ padded 2 d.minute ++ ":" ++ padded 2 d.second ++ fractionText d.nanos ++ "+00:00"

/-- The date and time of day as a part of a file name. -/
def stamp (d : DateTime) : String :=
  yearText d.year ++ padded 2 d.month ++ padded 2 d.day ++ "_" ++ padded 2 d.hour ++
    padded 2 d.minute ++ padded 2 d.second

example : (ofInstant ⟨1709294400, 0⟩).text = "2024-03-01T12:00:00+00:00" := by decide +kernel

example : (ofInstant ⟨-62167219201, 500000000⟩).text = "-0001-12-31T23:59:59.500+00:00" := by
  decide +kernel

end DateTime

end GlyphFold
