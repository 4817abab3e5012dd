import Mathlib
import AnomalyDetection.Proofs.Detector.Interval
import AnomalyDetection.Proofs.Engine.Buckets

namespace AnomalyDetection

theorem Buckets.split_ne_noInterval {start stop : Instant} {s : Span} {limit : Nat}
    (h : 0 < s.millis) : split start stop s limit ≠ .error .noInterval := by
  unfold split
  rw [if_neg (Int.not_le.mpr h)]
  dsimp only
  split
  case isTrue => nofun
  case isFalse => split <;> nofun

namespace Interval

variable {i : Interval}

-- What an interval has to keep to, told in whole numbers.
structure Bounded (i : Interval) : Prop where
  positive : 1 ≤ i.count.toNat
  millis_le : i.count.toNat * i.unit.inSeconds * 1000 ≤ 2 ^ 63 - 1

theorem Bounded.count_lt (h : i.Bounded) : i.count.toNat < UInt64.size / 2 := by
  have hu := i.unit.inSeconds_pos
  have hm := Nat.le_mul_of_pos_right i.count.toNat hu
  have hl := h.millis_le
  change _ < 9223372036854775808
  omega

theorem not_bounded_iff : ¬i.Bounded ↔
    i.count.toNat = 0 ∨ 2 ^ 63 - 1 < i.count.toNat * i.unit.inSeconds * 1000 := by
  have hb : i.Bounded ↔
      1 ≤ i.count.toNat ∧ i.count.toNat * i.unit.inSeconds * 1000 ≤ 2 ^ 63 - 1 :=
    ⟨fun h => ⟨h.positive, h.millis_le⟩, fun h => ⟨h.1, h.2⟩⟩
  rw [hb]
  omega

theorem span_eq_ok_iff {s : Span} : i.span = .ok s ↔ i.Bounded ∧ s = i.length := by
  have hm : Span.maxMillis = 9223372036854775807 := rfl
  constructor
  case mp =>
    intro h
    have ⟨hp, hs⟩ := span_eq_ok h
    refine ⟨⟨millis_length_pos.mp hp, ?_⟩, hs⟩
    rw [span_eq] at h
    split at h
    case isTrue => cases h
    split at h
    case isTrue => cases h
    split at h
    case isTrue hl => rw [millis_length] at hl; omega
    case isFalse => cases h
  case mpr =>
    rintro ⟨h, rfl⟩
    have hl := h.millis_le
    rw [span_eq, if_neg (Nat.not_le.mpr h.count_lt), if_neg (Nat.ne_of_gt h.positive), if_pos]
    rw [millis_length]
    omega

-- The words are multiplied as whole numbers are.
theorem Bounded.toInt_mul (h : i.Bounded) :
    (i.count.toInt64 * .ofNat i.unit.inSeconds).toInt = i.count.toNat * i.unit.inSeconds := by
  have hl := h.millis_le
  rw [Int64.toInt_mul, toInt_count h.count_lt, toInt_inSeconds]
  exact Int.bmod_eq_of_le (by omega) (by omega)

theorem Bounded.toInt_mul_millis (h : i.Bounded) :
    (i.count.toInt64 * .ofNat i.unit.inSeconds * 1000).toInt =
      i.count.toNat * i.unit.inSeconds * 1000 := by
  have hl := h.millis_le
  have hk : (1000 : Int64).toInt = 1000 := rfl
  rw [Int64.toInt_mul, h.toInt_mul, hk]
  exact Int.bmod_eq_of_le (by omega) (by omega)

-- An interval has a length exactly if it counts something and if its milliseconds are no more than
-- those of the longest span. The length is that of the whole numbers, and no product of words on
-- the way to it or from it to milliseconds has wrapped around. Buckets can be made of it, and as
-- many of them as it fits into a window. All other intervals are refused.
theorem exact_up_to_limit (i : Interval) :
    let seconds := i.count.toNat * i.unit.inSeconds
    ((∃ s, i.span = .ok s) ↔ 1 ≤ i.count.toNat ∧ seconds * 1000 ≤ 2 ^ 63 - 1) ∧
    (∀ s, i.span = .ok s →
      s.nanoseconds = seconds * 10 ^ 9 ∧ s.millis = seconds * 1000 ∧ 0 < s.millis ∧
      (i.count.toInt64 * .ofNat i.unit.inSeconds).toInt = seconds ∧
      (i.count.toInt64 * .ofNat i.unit.inSeconds * 1000).toInt = seconds * 1000 ∧
      ∀ start stop limit, Buckets.split start stop s limit ≠ .error .noInterval ∧
        ∀ b, Buckets.split start stop s limit = .ok b → b.interval = s ∧
          b.count = ((stop - start).millis / (seconds * 1000)).toNat) ∧
    (∀ e, i.span = .error e ↔ i.Lacks e) ∧
    ((∃ e, i.span = .error e) ↔ i.count.toNat = 0 ∨ 2 ^ 63 - 1 < seconds * 1000) := by
  intro seconds
  have hb : (∃ s, i.span = .ok s) ↔ i.Bounded := by simp [span_eq_ok_iff]
  refine ⟨hb.trans ⟨fun h => ⟨h.positive, h.millis_le⟩, fun h => ⟨h.1, h.2⟩⟩, fun s hs => ?span,
    fun e => span_eq_error, ?refused⟩
  case span =>
    obtain ⟨h, rfl⟩ := span_eq_ok_iff.mp hs
    have hm : i.length.millis = seconds * 1000 := by
      rw [millis_length]
      rfl
    have hp : 0 < i.length.millis := millis_length_pos.mpr h.positive
    refine ⟨?seconds, hm, hp, ?word, ?millis,
      fun start stop limit => ⟨Buckets.split_ne_noInterval hp, ?split⟩⟩
    case seconds => simp only [length, Span.ofMillis]; omega
    case word => rw [h.toInt_mul]; rfl
    case millis => rw [h.toInt_mul_millis]; rfl
    case split =>
      intro b hb
      obtain ⟨_, _, rfl⟩ := Buckets.split_eq_ok hb
      exact ⟨rfl, by rw [hm]⟩
  case refused =>
    rw [← not_bounded_iff, ← hb]
    cases i.span <;> simp

-- The greatest number of days that are a span, and one day more.
theorem exact_up_to_limit_days :
    let most : Interval := ⟨106751991167, .days⟩
    let more : Interval := ⟨106751991168, .days⟩
    most.span = .ok (.ofMillis 9223372036828800000) ∧
    (most.count.toInt64 * .ofNat most.unit.inSeconds * 1000).toInt = 9223372036828800000 ∧
    0 < (Span.ofMillis 9223372036828800000).millis ∧ ∃ e, more.span = .error e := by
  intro most more
  have hs : most.span = .ok (.ofMillis 9223372036828800000) :=
    span_eq_ok_iff.mpr ⟨⟨by decide, by decide⟩, by decide⟩
  have ⟨_, hl, _, _⟩ := exact_up_to_limit most
  have ⟨_, _, hp, _, hw, _⟩ := hl _ hs
  have ⟨_, _, _, he⟩ := exact_up_to_limit more
  have hm : 2 ^ 63 - 1 < 106751991168 * 86400 * 1000 := by decide
  exact ⟨hs, hw.trans (by decide), hp, he.mpr (.inr hm)⟩

end Interval
end AnomalyDetection
