import TaggedStream.Text.Hex

/-!
The proleptic Gregorian calendar: from a count of days since 1970-01-01 to a year, a month and a
day, and the texts of dates and of times of day.
-/

namespace TaggedStream.Calendar

/-- A date by year, month and day; year 0 is the year before year 1. -/
structure Civil where
  year : Int
  month : Nat
  day : Nat
deriving DecidableEq, Repr, Inhabited

/-- The date that lies `day` days after 1970-01-01. Years are counted from March, so that a leap day
ends its year, within eras of 400 years. -/
def civil (day : Int) : Civil :=
  let shifted := day + 719468
  let era := shifted / 146097
  let dayOfEra := (shifted % 146097).toNat
  let yearOfEra :=
    (dayOfEra - dayOfEra / 1460 + dayOfEra / 36524 - dayOfEra / 146096) / 365
  let dayOfYear := dayOfEra - (365 * yearOfEra + yearOfEra / 4 - yearOfEra / 100)
  let monthFromMarch := (5 * dayOfYear + 2) / 153
  let month := if monthFromMarch < 10 then monthFromMarch + 3 else monthFromMarch - 9
  { year := era * 400 + yearOfEra + (if month ≤ 2 then 1 else 0)
    month := month
    day := dayOfYear - (153 * monthFromMarch + 2) / 5 + 1 }

/-- Four digits for the years 0 to 9999; a sign and at least four digits for all others. -/
def yearText (year : Int) : String :=
  if 0 ≤ year ∧ year ≤ 9999 then Text.decimalPadded 4 year.toNat
  else (if year < 0 then "-" else "+") ++ Text.decimalPadded 4 year.natAbs

/-- A date as `year-month-day`. -/
def dateText (day : Int) : String :=
  let date := civil day
  yearText date.year ++ "-" ++ Text.decimalPadded 2 date.month ++ "-" ++
    Text.decimalPadded 2 date.day

/-- The fraction of a second in three, six or nine digits, whichever is the first to be exact, and
nothing for a whole second. -/
def fractionText (nanos : Nat) : String :=
  if nanos = 0 then ""
  else if nanos % 1000000 = 0 then "." ++ Text.decimalPadded 3 (nanos / 1000000)
  else if nanos % 1000 = 0 then "." ++ Text.decimalPadded 6 (nanos / 1000)
  else "." ++ Text.decimalPadded 9 nanos

/-- A time of day as `hour:minute:second` with a fraction as needed. A leap second, which has a
thousand million nanoseconds or more, shows the second after its own. -/
def clockText (secondOfDay nanos : Nat) : String :=
  let (second, fraction) :=
    if 1000000000 ≤ nanos then (secondOfDay % 60 + 1, nanos - 1000000000)
    else (secondOfDay % 60, nanos)
  Text.decimalPadded 2 (secondOfDay / 3600) ++ ":" ++
    Text.decimalPadded 2 (secondOfDay / 60 % 60) ++ ":" ++
    Text.decimalPadded 2 second ++ fractionText fraction

/-- A distance from UTC as a sign, hours and minutes, and seconds if there are any. -/
def offsetText (seconds : Int) : String :=
  let magnitude := seconds.natAbs
  (if seconds < 0 then "-" else "+") ++ Text.decimalPadded 2 (magnitude / 3600) ++ ":" ++
    Text.decimalPadded 2 (magnitude / 60 % 60) ++
    (if magnitude % 60 = 0 then "" else ":" ++ Text.decimalPadded 2 (magnitude % 60))

example : civil 0 = ⟨1970, 1, 1⟩ ∧ civil (-719529) = ⟨-1, 12, 31⟩ := by decide
example : civil 95026236 = ⟨262142, 12, 31⟩ ∧ civil 19782 = ⟨2024, 2, 29⟩ := by decide

end TaggedStream.Calendar
