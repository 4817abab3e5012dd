import AnomalyDetection.Time.Calendar

namespace AnomalyDetection

-- Nanoseconds in a second.
def giga : Nat := 1000000000

-- An instant of UTC is a day, a second of that day, and nanoseconds. Inside a leap second the
-- second is the one before and the nanoseconds run on to `2 * 10 ^ 9`. Leap seconds are counted
-- only where an instant lies inside one: the calendar does not know when they were.
@[ext]
structure Instant where
  day : Int
  second : Nat
  nanosecond : Nat
  second_lt : second < 86400
  nanosecond_lt : nanosecond < 2 * giga
  deriving DecidableEq

-- A length of time in nanoseconds.
@[ext]
structure Span where
  nanoseconds : Int
  deriving DecidableEq

namespace Span

def ofMillis (ms : Int) : Span := ⟨ms * 1000000⟩

-- Whole milliseconds, the rest cut off.
def millis (s : Span) : Int := s.nanoseconds.tdiv 1000000

-- The longest span, in milliseconds.
def maxMillis : Int := Int64.maxValue.toInt

-- The span of so many seconds, if its milliseconds are still those of a span.
def ofSeconds? (n : Int64) : Option Span :=
  let most := Int64.maxValue / 1000
  if -most ≤ n ∧ n ≤ most then some (ofMillis (n.toInt * 1000)) else none

theorem millis_ofMillis (ms : Int) : (ofMillis ms).millis = ms := by
  simp [millis, ofMillis]

end Span

namespace Instant

-- The instant so many seconds and nanoseconds after the start of a day, outside of leap seconds.
def ofParts (day seconds nanoseconds : Int) : Instant :=
  let s := seconds + nanoseconds / giga
  { day := day + s / 86400
    second := (s % 86400).toNat
    nanosecond := (nanoseconds % giga).toNat
    second_lt := by omega
    nanosecond_lt := by simp only [giga]; omega }

def inLeapSecond (t : Instant) : Bool := giga ≤ t.nanosecond

-- The first and last day that an instant may lie on.
def firstDay : Int := Date.toDay ⟨-262143, 1, 1⟩
def lastDay : Int := Date.toDay ⟨262142, 12, 31⟩

def InRange (t : Instant) : Prop := firstDay ≤ t.day ∧ t.day ≤ lastDay

instance (t : Instant) : Decidable t.InRange := inferInstanceAs (Decidable (_ ∧ _))

-- The instant, if it lies in the range.
def checked? (t : Instant) : Option Instant :=
  if t.InRange then some t else none

-- Order in time.
def lt (a b : Instant) : Bool :=
  a.day < b.day || a.day == b.day &&
    (a.second < b.second || a.second == b.second && a.nanosecond < b.nanosecond)

instance : LT Instant := ⟨fun a b => a.lt b⟩
instance : LE Instant := ⟨fun a b => ¬b < a⟩
instance (a b : Instant) : Decidable (a < b) := inferInstanceAs (Decidable (a.lt b = true))
instance (a b : Instant) : Decidable (a ≤ b) := inferInstanceAs (Decidable (¬_))

-- The time from `b` to `a`.
def sub (a b : Instant) : Span :=
  -- A leap second between the two times of day is counted if one of them lies inside it.
  let leap : Int :=
    if b.second < a.second ∧ b.inLeapSecond then 1
    else if a.second < b.second ∧ a.inLeapSecond then -1
    else 0
  ⟨((a.day - b.day) * 86400 + a.second - b.second + leap) * giga + a.nanosecond - b.nanosecond⟩

instance : HSub Instant Instant Span := ⟨sub⟩

def add (t : Instant) (s : Span) : Instant :=
  let seconds := s.nanoseconds.tdiv giga
  let rest := s.nanoseconds.tmod giga
  if t.inLeapSecond then
    if h : 0 < seconds ∨ 2 * giga ≤ t.nanosecond + rest then
      ofParts t.day (t.second + seconds) (t.nanosecond - giga + rest)
    else if seconds < 0 then
      ofParts t.day (t.second + 1 + seconds) (t.nanosecond - giga + rest)
    else
      -- Neither the leap second nor the second before it is left.
      { t with
        nanosecond := (t.nanosecond + rest).toNat
        nanosecond_lt := by simp only [giga] at *; omega }
  else ofParts t.day (t.second + seconds) (t.nanosecond + rest)

instance : HAdd Instant Span Instant := ⟨add⟩

-- The instant of a count of milliseconds since 1970, if it is in range.
def ofEpochMillis? (ms : Int) : Option Instant :=
  (ofParts 0 (ms / 1000) (ms % 1000 * 1000000)).checked?

-- Milliseconds since 1970, rounded down; they run on inside a leap second.
def epochMillis (t : Instant) : Int :=
  (t.day * 86400 + t.second) * 1000 + (t.nanosecond / 1000000 : Nat)

end Instant
end AnomalyDetection
