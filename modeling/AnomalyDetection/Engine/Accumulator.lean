import AnomalyDetection.Engine.Quantity

namespace AnomalyDetection

inductive Operator
  | avg
  | sum
  | min
  | max
  | valueCount
  deriving DecidableEq

namespace Operator

def name : Operator → String
  | avg => "avg"
  | sum => "sum"
  | min => "min"
  | max => "max"
  | valueCount => "value_count"

def all : List Operator := [avg, sum, min, max, valueCount]

def ofName? (s : String) : Option Operator :=
  all.find? (·.name == s)

end Operator

-- What a row shows for a feature: a number, or a value that is present but no number.
inductive Observation (α : Type)
  | number (x : α)
  | present

structure Accumulator (α : Type) where
  count : Nat
  sum : α
  min : Option α
  max : Option α

namespace Accumulator

variable [Quantity α]

def empty : Accumulator α := ⟨0, Quantity.ofNat 0, none, none⟩

def push (a : Accumulator α) (x : α) : Accumulator α where
  count := a.count + 1
  sum := a.sum + x
  min := some (a.min.elim x (Quantity.lesser · x))
  max := some (a.max.elim x (Quantity.greater · x))

-- A value that is only counted.
def pushPresent (a : Accumulator α) : Accumulator α :=
  { a with count := a.count + 1 }

def observe (a : Accumulator α) : Observation α → Accumulator α
  | .number x => a.push x
  | .present => a.pushPresent

-- The totals of a list of observations.
def ofList (os : List (Observation α)) : Accumulator α :=
  os.foldl observe empty

def finish (a : Accumulator α) : Operator → Option α
  | .valueCount => some (Quantity.ofNat a.count)
  | .avg => if a.count = 0 then none else some (a.sum / Quantity.ofNat a.count)
  | .sum => if a.count = 0 then none else some a.sum
  | .min => if a.count = 0 then none else a.min
  | .max => if a.count = 0 then none else a.max

end Accumulator
end AnomalyDetection
