import AnomalyDetection.Time.Instant
import AnomalyDetection.Decimal.Integer

namespace AnomalyDetection.Instant

open Decimal (padded)

def yearText (year : Int) : List Char :=
  if 0 ≤ year ∧ year ≤ 9999 then padded 4 year.toNat
  else (if year < 0 then '-' else '+') :: padded 4 year.natAbs

def fractionText (nanos : Nat) : List Char :=
  if nanos = 0 then []
  else if nanos % 1000000 = 0 then '.' :: padded 3 (nanos / 1000000)
  else if nanos % 1000 = 0 then '.' :: padded 6 (nanos / 1000)
  else '.' :: padded 9 nanos

-- The fraction has as many of 0, 3, 6 or 9 digits as it needs. Years outside of 0 to 9999 have a
-- sign and at least four digits. A leap second is the second 60.
def written (t : Instant) : List Char :=
  let d := Date.ofDay t.day
  let second := t.second % 60 + t.nanosecond / giga
  yearText d.year ++ '-' :: padded 2 d.month ++ '-' :: padded 2 d.day ++
    'T' :: padded 2 (t.second / 3600) ++ ':' :: padded 2 (t.second / 60 % 60) ++
    ':' :: padded 2 second ++ fractionText (t.nanosecond % giga) ++ ['Z']

def text (t : Instant) : String :=
  String.ofList t.written

end AnomalyDetection.Instant
