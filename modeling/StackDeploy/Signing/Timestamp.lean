/-
# Timestamps

A request is signed as of a second, counted from the beginning of 1970 in universal time. Its date
is that of the Gregorian calendar, extended in both directions. The calendar repeats every 400
years, and within such an era the years are taken to begin in March, so that the leap day comes
last.
-/

import StackDeploy.Text.Cut

namespace StackDeploy.Signing

/-- A date of the calendar. -/
structure Date where
  year : Int
  month : Nat
  day : Nat
deriving DecidableEq

/-- The number of days in 400 years. -/
def daysPerEra : Nat := 146097

/-- The date of a day, counted from the first of January 1970. -/
def Date.ofDays (days : Int) : Date :=
  let shifted := days + 719468
  let era := shifted / daysPerEra
  let dayOfEra := (shifted % daysPerEra).toNat
  let yearOfEra := (dayOfEra - dayOfEra / 1460 + dayOfEra / 36524 - dayOfEra / 146096) / 365
  let dayOfYear := dayOfEra - (365 * yearOfEra + yearOfEra / 4 - yearOfEra / 100)
  let marchMonth := (5 * dayOfYear + 2) / 153
  let day := dayOfYear - (153 * marchMonth + 2) / 5 + 1
  let month := if marchMonth < 10 then marchMonth + 3 else marchMonth - 9
  let year := era * 400 + yearOfEra + (if month ≤ 2 then 1 else 0)
  ⟨year, month, day⟩

/-- A year: four digits, or a sign and at least four digits outside the years 0 to 9999. -/
def yearText (year : Int) : String :=
  if year < 0 then "-" ++ Text.decimalPadded 4 year.natAbs
  else if 9999 < year then "+" ++ Text.decimal year.toNat
  else Text.decimalPadded 4 year.toNat

/-- A date without separators. -/
def Date.text (d : Date) : String :=
  yearText d.year ++ Text.decimalPadded 2 d.month ++ Text.decimalPadded 2 d.day

/-- The number of seconds in a day. -/
def secondsPerDay : Nat := 86400

/-- The date of a second. -/
def dateText (seconds : Int) : String :=
  (Date.ofDays (seconds / secondsPerDay)).text

/-- The date and time of a second, in universal time. -/
def timestampText (seconds : Int) : String :=
  let secondOfDay := (seconds % secondsPerDay).toNat
  dateText seconds ++ "T" ++ Text.decimalPadded 2 (secondOfDay / 3600) ++
    Text.decimalPadded 2 (secondOfDay / 60 % 60) ++ Text.decimalPadded 2 (secondOfDay % 60) ++ "Z"

end StackDeploy.Signing
