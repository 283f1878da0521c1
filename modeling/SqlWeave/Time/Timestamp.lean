import SqlWeave.Text.Decimal
import SqlWeave.Time.Calendar

/-!
# Timestamps

An instant is a number of seconds since 1970-01-01T00:00:00Z and nanoseconds within the second.
Nanoseconds from `10 ^ 9` up stand for a leap second, which follows the last second of a minute.
-/
namespace SqlWeave.Time

/-- The first second of the year -262143. -/
def firstSecond : Int := -8334601228800

/-- The last second of the year 262142. -/
def lastSecond : Int := 8210266876799

/-- An instant of the years -262143 to 262142, to the nanosecond. -/
structure Timestamp where
  seconds : Int
  nanos : Nat
  inRange : firstSecond ≤ seconds ∧ seconds ≤ lastSecond
  nanos_lt : nanos < 2000000000
deriving DecidableEq

/-- The instant, if it lies in the supported years. -/
def Timestamp.ofParts? (seconds : Int) (nanos : Nat) : Option Timestamp :=
  if inRange : firstSecond ≤ seconds ∧ seconds ≤ lastSecond then
    if nanos_lt : nanos < 2000000000 then some ⟨seconds, nanos, inRange, nanos_lt⟩ else none
  else none

/-- A leap second carries a full second of nanoseconds. -/
def Timestamp.isLeap (t : Timestamp) : Bool := 1000000000 ≤ t.nanos

/-- Year, at least four digits; a year outside 0 to 9999 has a sign. -/
def yearText (year : Int) : List Char :=
  if 0 ≤ year ∧ year ≤ 9999 then Text.decimalPadded 4 year.natAbs
  else (if year < 0 then '-' else '+') :: Text.decimalPadded 4 year.natAbs

/-- A fraction of a second with the fewest of 0, 3, 6 and 9 digits that are exact. -/
def fractionText (nanos : Nat) : List Char :=
  if nanos = 0 then []
  else if nanos % 1000000 = 0 then '.' :: Text.decimalPadded 3 (nanos / 1000000)
  else if nanos % 1000 = 0 then '.' :: Text.decimalPadded 6 (nanos / 1000)
  else '.' :: Text.decimalPadded 9 nanos

/-- The instant in UTC as RFC 3339 writes it; a leap second prints as second 60. -/
def Timestamp.text (t : Timestamp) : List Char :=
  let date := Date.ofDayNumber (t.seconds / 86400)
  let secondOfDay := (t.seconds % 86400).toNat
  let second := secondOfDay % 60 + if t.isLeap then 1 else 0
  let nanos := t.nanos % 1000000000
  yearText date.year ++ '-' :: Text.decimalPadded 2 date.month ++ '-' ::
    Text.decimalPadded 2 date.day ++ 'T' :: Text.decimalPadded 2 (secondOfDay / 3600) ++ ':' ::
    Text.decimalPadded 2 (secondOfDay / 60 % 60) ++ ':' :: Text.decimalPadded 2 second ++
    fractionText nanos ++ ['Z']

end SqlWeave.Time
