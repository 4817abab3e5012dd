import Mathlib
import AnomalyDetection.Decimal.Binary
import AnomalyDetection.Engine.Score

namespace AnomalyDetection

-- The number that the parts of a double stand for.
noncomputable def Decimal.Binary.value (b : Binary) : ℝ :=
  (if b.negative then -1 else 1) * b.mantissa * (2 : ℝ) ^ b.exponent

namespace Population

variable (xs : List ℝ)

noncomputable def mean : ℝ := xs.sum / xs.length

-- The mean of the squared distances from the mean.
noncomputable def variance : ℝ := mean (xs.map fun x => (x - mean xs) ^ 2)

noncomputable def deviation : ℝ := √(variance xs)

-- How many deviations a number lies away from the mean, with deviations of no less than `least`.
noncomputable def distance (least x : ℝ) : ℝ := |x - mean xs| / max (deviation xs) least

end Population

namespace Quantity

noncomputable instance : Quantity ℝ where
  -- There is no number for what is not finite.
  ofFloat x := (Decimal.Binary.ofFloat? x).elim 0 (·.value)
  ofNat n := n
  sqrt := Real.sqrt
  abs x := |x|
  lt x y := decide (x < y)
  le x y := decide (x ≤ y)
  lesser := min
  greater := max
  epsilon := 2 ^ (-52 : ℤ)

theorem epsilon_pos : 0 < (epsilon : ℝ) :=
  zpow_pos two_pos _

theorem epsilon_le_one : (epsilon : ℝ) ≤ 1 :=
  zpow_le_one_of_nonpos₀ one_le_two (by decide)

-- The least deviation is that of the doubles.
theorem ofFloat_floatEpsilon : (ofFloat floatEpsilon : ℝ) = epsilon := by
  have hb : Decimal.Binary.ofFloat? floatEpsilon = some ⟨false, 2 ^ 52, -104, true⟩ := by
    decide +kernel
  change (Decimal.Binary.ofFloat? floatEpsilon).elim (0 : ℝ) (·.value) = 2 ^ (-52 : ℤ)
  rw [hb, Option.elim_some, Decimal.Binary.value]
  norm_num

theorem clamp_eq (x : ℝ) {low high : ℝ} (h : low ≤ high) :
    clamp x low high = max low (min x high) := by
  unfold clamp
  simp only [lt, decide_eq_true_eq]
  split
  case isTrue hl => rw [max_eq_left ((min_le_left x high).trans hl.le)]
  case isFalse hl =>
    split
    case isTrue hh => rw [min_eq_right hh.le, max_eq_right h]
    case isFalse hh => rw [min_eq_left (not_lt.mp hh), max_eq_right (not_lt.mp hl)]

end Quantity

-- The values of a series in all buckets that it has one in.
def Series.present (s : Series ℝ) : List ℝ :=
  s.values.toList.reduceOption

theorem Series.mem_present {s : Series ℝ} {i : ℕ} {x : ℝ} (h : s.values[i]?.join = some x) :
    x ∈ s.present := by
  rw [present, List.reduceOption_mem_iff, Array.mem_toList_iff]
  exact Array.mem_of_getElem? (Option.join_eq_some_iff.mp h)

namespace Score

open Population (mean variance deviation distance)
open Quantity (epsilon)

theorem total_eq_sum (xs : List ℝ) : total xs = xs.sum := by
  cases xs
  case nil => exact Nat.cast_zero
  case cons x xs => rw [List.sum_eq_foldl, List.foldl_cons, zero_add]; rfl

theorem total_div_length (xs : List ℝ) : total xs / (xs.length : ℝ) = mean xs := by
  rw [total_eq_sum, mean]

theorem total_squares_div_length (xs : List ℝ) (m : ℝ) :
    total (xs.map fun x => (x - m) * (x - m)) / (xs.length : ℝ) =
      mean (xs.map fun x => (x - m) ^ 2) := by
  simp only [total_eq_sum, mean, List.length_map, sq]

theorem statistics?_eq (s : Series ℝ) (h : s.present ≠ []) : statistics? s.values.toList =
    some (mean s.present, max (deviation s.present) epsilon) := by
  have hv : total (s.present.map fun x =>
      (x - total s.present / (s.present.length : ℝ)) *
        (x - total s.present / (s.present.length : ℝ))) / (s.present.length : ℝ) =
      variance s.present := by
    rw [total_div_length, total_squares_div_length, variance]
  have hs : statistics? s.values.toList = _ := if_neg (mt List.isEmpty_iff.mp h)
  rw [deviation, ← hv, ← total_div_length]
  exact hs

theorem deviation?_eq (s : Series ℝ) (i : ℕ) :
    deviation? s (statistics? s.values.toList) i =
      s.values[i]?.join.map (distance s.present epsilon) := by
  cases h : s.values[i]?.join
  case none => simp [deviation?, h]
  case some x =>
    rw [statistics?_eq s (List.ne_nil_of_mem (Series.mem_present h)), deviation?, h]
    rfl

end Score
end AnomalyDetection
