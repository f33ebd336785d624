import SqlDialects.Number.Text

/-! # Timestamps

A timestamp is a date and a time of day without a zone. Its text has six fraction digits, the rest cut off. -/

namespace SqlDialects

/-- A date and a time of day. A leap second is second 59 with a nanosecond of one billion or more. -/
structure Timestamp where
  year : Int
  month : Nat
  day : Nat
  hour : Nat
  minute : Nat
  second : Nat
  nanosecond : Nat
  deriving DecidableEq

namespace Timestamp
open Number

/-- Years of four digits stand alone; all others carry their sign. -/
def yearText (year : Int) : List Char :=
  if 0 ≤ year ∧ year ≤ 9999 then paddedText 4 year.natAbs
  else (if year < 0 then '-' else '+') :: paddedText 4 year.natAbs

/-- The second on the clock: a leap second reads 60. -/
def clockSecond (t : Timestamp) : Nat :=
  t.second + t.nanosecond / 1000000000

/-- The microseconds within the second. -/
def microsecond (t : Timestamp) : Nat :=
  t.nanosecond % 1000000000 / 1000

/-- The text `year-month-day hour:minute:second.fraction`. -/
def text (t : Timestamp) : String :=
  String.ofList <| yearText t.year ++ '-' :: paddedText 2 t.month ++ '-' :: paddedText 2 t.day ++
    ' ' :: paddedText 2 t.hour ++ ':' :: paddedText 2 t.minute ++ ':' :: paddedText 2 t.clockSecond ++
    '.' :: paddedText 6 t.microsecond

end Timestamp
end SqlDialects
