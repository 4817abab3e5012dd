import AnomalyDetection.Engine.Accumulator

namespace AnomalyDetection

namespace Observation

variable {α : Type} {os : List (Observation α)}

def number? : Observation α → Option α
  | number x => some x
  | present => none

-- The numbers among observations.
def numbers (os : List (Observation α)) : List α :=
  os.filterMap number?

-- The observations without those that are only counted.
def numeric (os : List (Observation α)) : List (Observation α) :=
  os.filter (·.number?.isSome)

theorem numbers_numeric (os : List (Observation α)) : numbers (numeric os) = numbers os := by
  rw [numbers, numeric, List.filterMap_filter, numbers]
  congr
  funext o
  cases o <;> rfl

theorem length_numeric (os : List (Observation α)) :
    (numeric os).length = (numbers os).length := by
  rw [numbers, List.length_filterMap_eq_countP, numeric, List.countP_eq_length_filter]

theorem numeric_eq_nil_iff : numeric os = [] ↔ numbers os = [] := by
  rw [← List.length_eq_zero_iff, length_numeric, List.length_eq_zero_iff]

theorem mem_numbers {x : α} : x ∈ numbers os ↔ number x ∈ os := by
  rw [numbers, List.mem_filterMap]
  constructor
  case mp =>
    rintro ⟨o, ho, hx⟩
    cases o <;> cases hx
    exact ho
  case mpr => exact fun h => ⟨number x, h, rfl⟩

end Observation

namespace Accumulator

open Observation (numbers numeric)

section Extremes

variable {α : Type} (prefer : α → α → α)

-- The element that is left of a list if the one of every two that is preferred stays.
def extreme? : List α → Option α
  | [] => none
  | x :: xs => some (xs.foldl prefer x)

theorem isSome_extreme? (xs : List α) : (extreme? prefer xs).isSome ↔ xs ≠ [] := by
  cases xs
  case nil => simp [extreme?]
  case cons => simp [extreme?]

-- What is preferred so far, and one more element.
def extend (m : Option α) (x : α) : Option α :=
  some (m.elim x (prefer · x))

theorem foldl_extend_some (xs : List α) (m : α) :
    xs.foldl (extend prefer) (some m) = some (xs.foldl prefer m) := by
  induction xs generalizing m
  case nil => rfl
  case cons x xs hi => exact hi (prefer m x)

theorem foldl_extend_none (xs : List α) : xs.foldl (extend prefer) none = extreme? prefer xs := by
  cases xs
  case nil => rfl
  case cons x xs => exact foldl_extend_some prefer xs x

end Extremes

variable {α : Type} [Quantity α] {os : List (Observation α)}

theorem foldl_observe (os : List (Observation α)) (a : Accumulator α) :
    os.foldl observe a =
      { count := a.count + os.length
        sum := (numbers os).foldl (· + ·) a.sum
        min := (numbers os).foldl (extend Quantity.lesser) a.min
        max := (numbers os).foldl (extend Quantity.greater) a.max } := by
  induction os generalizing a
  case nil => rfl
  case cons o os hi =>
    have hn : a.count + (o :: os).length = a.count + 1 + os.length := by
      rw [List.length_cons]
      omega
    rw [hn]
    cases o
    case number x => exact hi (a.push x)
    case present => exact hi a.pushPresent

-- The sum of numbers, from left to right.
def total (xs : List α) : α :=
  xs.foldl (· + ·) (Quantity.ofNat 0)

-- All observations are counted, and nothing but the numbers matters to the rest.
theorem ofList_eq (os : List (Observation α)) : ofList os =
    { count := os.length
      sum := total (numbers os)
      min := extreme? Quantity.lesser (numbers os)
      max := extreme? Quantity.greater (numbers os) } := by
  rw [ofList, foldl_observe, ← foldl_extend_none, ← foldl_extend_none, empty, Nat.zero_add]
  rfl

theorem finish_valueCount (os : List (Observation α)) :
    (ofList os).finish .valueCount = some (Quantity.ofNat os.length) := by
  rw [ofList_eq]
  rfl

theorem finish_min (os : List (Observation α)) :
    (ofList os).finish .min = extreme? Quantity.lesser (numbers os) := by
  rw [ofList_eq]
  cases os <;> rfl

theorem finish_max (os : List (Observation α)) :
    (ofList os).finish .max = extreme? Quantity.greater (numbers os) := by
  rw [ofList_eq]
  cases os <;> rfl

theorem finish_sum (os : List (Observation α)) :
    (ofList os).finish .sum = if os = [] then none else some (total (numbers os)) := by
  rw [ofList_eq]
  cases os <;> rfl

theorem finish_avg (os : List (Observation α)) : (ofList os).finish .avg =
    if os = [] then none else some (total (numbers os) / Quantity.ofNat os.length) := by
  rw [ofList_eq]
  cases os <;> rfl

theorem finish_nil (operator : Operator) : (ofList ([] : List (Observation α))).finish operator =
    if operator = .valueCount then some (Quantity.ofNat 0) else none := by
  cases operator <;> rfl

-- Which operators have something to say. A count of none is something, too.
theorem isSome_finish (os : List (Observation α)) (operator : Operator) :
    ((ofList os).finish operator).isSome ↔
      match operator with
      | .valueCount => True
      | .avg | .sum => os ≠ []
      | .min | .max => numbers os ≠ [] := by
  cases operator
  case valueCount => rw [finish_valueCount]; exact ⟨fun _ => trivial, fun _ => rfl⟩
  case avg => rw [finish_avg]; cases os <;> simp
  case sum => rw [finish_sum]; cases os <;> simp
  case min => rw [finish_min, isSome_extreme?]
  case max => rw [finish_max, isSome_extreme?]

-- Least and greatest number are those of the numbers alone, and so is the sum if there are numbers.
-- Without numbers there is still a sum of zero and a mean for what was counted, and a mean always
-- divides by the count of all.
theorem finish_ofList (os : List (Observation α)) :
    (ofList os).finish .valueCount = some (Quantity.ofNat os.length) ∧
    (ofList os).finish .min = (ofList (numeric os)).finish .min ∧
    (ofList os).finish .max = (ofList (numeric os)).finish .max ∧
    if numeric os = [] then
      (∀ operator ≠ .valueCount, (ofList (numeric os)).finish operator = none) ∧
      (ofList os).finish .sum = (if os = [] then none else some (Quantity.ofNat 0)) ∧
      (ofList os).finish .avg =
        (if os = [] then none else some (Quantity.ofNat 0 / Quantity.ofNat os.length))
    else ∃ sum,
      (ofList (numeric os)).finish .sum = some sum ∧
      (ofList os).finish .sum = some sum ∧
      (ofList (numeric os)).finish .avg = some (sum / Quantity.ofNat (numeric os).length) ∧
      (ofList os).finish .avg = some (sum / Quantity.ofNat os.length) := by
  refine ⟨finish_valueCount os, ?min, ?max, ?rest⟩
  case min => rw [finish_min, finish_min, Observation.numbers_numeric]
  case max => rw [finish_max, finish_max, Observation.numbers_numeric]
  case rest =>
    split
    case isTrue h =>
      have hn := Observation.numeric_eq_nil_iff.mp h
      refine ⟨fun operator ho => ?others, ?sum, ?avg⟩
      case others => rw [h, finish_nil, if_neg ho]
      case sum => rw [finish_sum, hn]; rfl
      case avg => rw [finish_avg, hn]; rfl
    case isFalse h =>
      have ho : os ≠ [] := by
        rintro rfl
        exact h rfl
      refine ⟨total (numbers os), ?sum, ?sumOfAll, ?avg, ?avgOfAll⟩
      case sum => rw [finish_sum, if_neg h, Observation.numbers_numeric]
      case sumOfAll => rw [finish_sum, if_neg ho]
      case avg => rw [finish_avg, if_neg h, Observation.numbers_numeric]
      case avgOfAll => rw [finish_avg, if_neg ho]

-- A word beside a number halves the mean, and alone it has the mean of nothing.
example : (ofList [.number (4 : Float), .present]).finish .avg = some 2 ∧
    (ofList [.number (4 : Float)]).finish .avg = some 4 ∧
    (ofList [(.present : Observation Float)]).finish .avg = some 0 := by
  decide

end Accumulator
end AnomalyDetection
