import AnomalyDetection.Time.Instant

namespace AnomalyDetection

-- Equal intervals one behind the other, from the start of a window on. What is left of the window
-- behind the last whole interval belongs to no bucket. Intervals and offsets count in whole
-- milliseconds.
structure Buckets where
  start : Instant
  interval : Span
  count : Nat
  deriving DecidableEq

-- Why a window has no buckets.
inductive Buckets.Fault
  | noInterval
  | windowTooShort
  | tooMany (count limit : Nat)
  deriving DecidableEq

namespace Buckets

-- The whole intervals of a window.
def split (start stop : Instant) (interval : Span) (limit : Nat) : Except Fault Buckets :=
  let window := (stop - start).millis
  if interval.millis ≤ 0 then .error .noInterval
  else if window < interval.millis then .error .windowTooShort
  else
    let count := (window / interval.millis).toNat
    if limit < count then .error (.tooMany count limit) else .ok ⟨start, interval, count⟩

-- The bucket that an instant falls into.
def indexOf? (b : Buckets) (t : Instant) : Option Nat :=
  let offset := (t - b.start).millis
  if offset < 0 then none
  else
    let i := (offset / b.interval.millis).toNat
    if i < b.count then some i else none

-- The start of a bucket, and the end, which belongs to the next one.
def bounds (b : Buckets) (i : Nat) : Instant × Instant :=
  let offset := min (b.interval.millis * i) Span.maxMillis
  let start := b.start + Span.ofMillis offset
  (start, start + b.interval)

end Buckets
end AnomalyDetection
