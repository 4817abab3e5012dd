import AnomalyDetection.Time.Instant
import AnomalyDetection.Json.Decode

namespace AnomalyDetection

inductive Interval.Unit
  | seconds
  | minutes
  | hours
  | days
  deriving DecidableEq

structure Interval where
  count : UInt64
  unit : Interval.Unit
  deriving DecidableEq

-- Why an interval has no length.
inductive Interval.Fault
  | tooLarge (count : UInt64)
  | zero
  | outOfRange (count : UInt64)
  deriving DecidableEq

def Interval.Fault.message : Fault → String
  | tooLarge n => "Invalid interval: " ++ toString n.toNat ++ " is too large"
  | zero => "Invalid interval: interval must be positive"
  | outOfRange n => "Invalid interval: " ++ toString n.toNat ++ " is out of range"

namespace Interval

def Unit.inSeconds : Unit → Nat
  | seconds => 1
  | minutes => 60
  | hours => 3600
  | days => 86400

def Unit.name : Unit → String
  | seconds => "Seconds"
  | minutes => "Minutes"
  | hours => "Hours"
  | days => "Days"

-- The spellings of the units.
def Unit.spellings : List (String × Unit) :=
  [("Seconds", seconds), ("seconds", seconds), ("Minutes", minutes), ("minutes", minutes),
   ("Hours", hours), ("hours", hours), ("Days", days), ("days", days)]

-- The product of two words, if it fits into a word too.
def product? (a b : Int64) : Option Int64 :=
  if a.toBitVec.smulOverflow b.toBitVec then none else some (a * b)

-- The length of the interval.
def span (i : Interval) : Except Fault Span :=
  if UInt64.size / 2 ≤ i.count.toNat then .error (.tooLarge i.count)
  else if i.count = 0 then .error .zero
  else
    match (product? i.count.toInt64 (.ofNat i.unit.inSeconds)).bind Span.ofSeconds? with
    | some s => .ok s
    | none => .error (.outOfRange i.count)

open Json

def periodShape : Shape Interval where
  name := "Period"
  blank := ⟨0, .seconds⟩
  fields := [
    .required "interval" (Decoder.uint64 "u64") fun n i => { i with count := n },
    .required "unit" (Decoder.variant Unit.spellings) fun u i => { i with unit := u }]

def shape : Shape Interval where
  name := "IntervalConfig"
  blank := ⟨0, .seconds⟩
  fields := [.required "period" periodShape.decode fun i _ => i]

def toJson (i : Interval) : Json :=
  .object [("period", .object [
    ("interval", .natural i.count),
    ("unit", .string i.unit.name)])]

end Interval
end AnomalyDetection
