import TwinFiles.Text.Decimal

/-!
# Instants and durations

An instant is a count of seconds since the start of 1970 in UTC, with nanoseconds. Its text is a
calendar date and a time of day with as few fraction digits as are exact, in groups of three.
Nanoseconds from 10^9 on lie in a leap second, which belongs to the minute before it.
-/

namespace TwinFiles

/-- A length of time. -/
structure Duration where
  seconds : Nat
  nanoseconds : Nat
  deriving DecidableEq, Repr

/-- Whole milliseconds, kept in a word of 64 bits. -/
def Duration.milliseconds (d : Duration) : Nat :=
  (d.seconds * 1000 + d.nanoseconds / 1000000) % Nat.pow 2 64

/-- A point in time: seconds since the start of 1970, and nanoseconds after that second. -/
structure Instant where
  seconds : Int
  nanoseconds : Nat
  deriving DecidableEq, Repr

/-- A day of the proleptic Gregorian calendar. -/
structure Date where
  year : Int
  month : Nat
  day : Nat
  deriving DecidableEq, Repr

/-- The date of a day counted from the start of 1970. Years run from March to February here, so
that the leap day is the last day of its year, and 400 of them have 146097 days. -/
def Date.ofDay (day : Int) : Date :=
  let shifted := day + 719468
  let era := shifted.fdiv 146097
  let dayOfEra := (shifted.fmod 146097).toNat
  let yearOfEra :=
    (dayOfEra - dayOfEra / 1460 + dayOfEra / 36524 - dayOfEra / 146096) / 365
  let dayOfYear := dayOfEra - (365 * yearOfEra + yearOfEra / 4 - yearOfEra / 100)
  let monthFromMarch := (5 * dayOfYear + 2) / 153
  let day := dayOfYear - (153 * monthFromMarch + 2) / 5 + 1
  let month := if monthFromMarch < 10 then monthFromMarch + 3 else monthFromMarch - 9
  let year := era * 400 + yearOfEra + (if month ≤ 2 then 1 else 0)
  ⟨year, month, day⟩

namespace Instant

/-- A year in four digits; one that needs more, or lies before year zero, has a sign. -/
def yearText (year : Int) : Bytes :=
  if 0 ≤ year ∧ year ≤ 9999 then Decimal.padded 4 year.toNat
  else if year < 0 then Ascii.dash :: Decimal.padded 4 year.natAbs
  else utf8 "+" ++ Decimal.padded 4 year.toNat

/-- The fraction of a second in 0, 3, 6 or 9 digits. -/
def fractionText (nanoseconds : Nat) : Bytes :=
  if nanoseconds = 0 then []
  else if nanoseconds % 1000000 = 0 then utf8 "." ++ Decimal.padded 3 (nanoseconds / 1000000)
  else if nanoseconds % 1000 = 0 then utf8 "." ++ Decimal.padded 6 (nanoseconds / 1000)
  else utf8 "." ++ Decimal.padded 9 nanoseconds

/-- Date and time of day in the form of RFC 3339. -/
def text (t : Instant) : Bytes :=
  let date := Date.ofDay (t.seconds.fdiv 86400)
  let second := (t.seconds.fmod 86400).toNat
  yearText date.year ++ utf8 "-" ++ Decimal.padded 2 date.month ++ utf8 "-" ++
    Decimal.padded 2 date.day ++ utf8 "T" ++ Decimal.padded 2 (second / 3600) ++ utf8 ":" ++
    Decimal.padded 2 (second / 60 % 60) ++ utf8 ":" ++
    Decimal.padded 2 (second % 60 + t.nanoseconds / 1000000000) ++
    fractionText (t.nanoseconds % 1000000000) ++ utf8 "Z"

end Instant

end TwinFiles
