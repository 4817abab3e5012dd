import AnomalyDetection.Proofs.Time.Clock
import AnomalyDetection.Proofs.Time.Instant

namespace AnomalyDetection.Instant

variable {t u : Instant}

-- The instant that the milliseconds of another one count up to.
def floored (t : Instant) : Instant :=
  ofParts 0 (t.epochMillis / 1000) (t.epochMillis % 1000 * 1000000)

theorem clock_floored (t : Instant) : t.floored.clock = t.epochMillis * 1000000 := by
  rw [floored, clock_ofParts]
  simp only [giga]
  omega

theorem inLeapSecond_floored (t : Instant) : t.floored.inLeapSecond = false :=
  inLeapSecond_ofParts ..

theorem floored_lt_iff : t.floored < u.floored ↔ t.epochMillis < u.epochMillis := by
  rw [lt_iff_clock t.inLeapSecond_floored u.inLeapSecond_floored, clock_floored, clock_floored]
  omega

theorem floored_eq_iff : t.floored = t ↔ t.IsWholeMillis := by
  refine ⟨fun h => ?_, ofParts_epochMillis⟩
  rw [← h]
  refine ⟨t.inLeapSecond_floored, ?_⟩
  simp only [floored, ofParts, giga]
  omega

theorem day_floored (t : Instant) : t.floored.day = t.epochMillis / 86400000 := by
  simp only [floored, ofParts, giga]
  omega

-- A leap second behind the very last second counts up to a second that is out of range.
theorem inRange_floored (h : t.InRange) :
    t.floored.InRange ↔ ¬(t.day = lastDay ∧ t.second = 86399 ∧ t.inLeapSecond) := by
  have hs := t.second_lt
  have hn := t.nanosecond_lt
  have hl : t.inLeapSecond = true ↔ giga ≤ t.nanosecond := decide_eq_true_iff
  have hr : firstDay ≤ t.day ∧ t.day ≤ lastDay := h
  change firstDay ≤ t.floored.day ∧ t.floored.day ≤ lastDay ↔ _
  rw [day_floored, hl]
  simp only [epochMillis, giga] at *
  omega

theorem inRange_floored_of_le (h : t.InRange) (hu : u.floored.InRange)
    (hl : t.epochMillis ≤ u.epochMillis) : t.floored.InRange := by
  have hr : firstDay ≤ t.day := h.left
  have hv : u.floored.day ≤ lastDay := hu.right
  change firstDay ≤ t.floored.day ∧ t.floored.day ≤ lastDay
  rw [day_floored] at *
  simp only [epochMillis] at *
  omega

-- Behind an instant in the very last leap second there are only others in it.
theorem inRange_floored_of_lt (ht : t.InRange) (hu : u.InRange) (hl : t < u)
    (h : u.floored.InRange) : t.floored.InRange := by
  rw [inRange_floored ht]
  rw [inRange_floored hu] at h
  rintro ⟨hd, hs, hn⟩
  have hn : giga ≤ t.nanosecond := of_decide_eq_true hn
  have hl := lt_iff.mp hl
  have hr : u.day ≤ lastDay := hu.right
  have hs' := u.second_lt
  exact h ⟨by omega, by omega, decide_eq_true (by omega)⟩

theorem ofMillis_epochMillis_floored (t : Instant) :
    ofMillis t.epochMillis = if t.floored.InRange then .ok t.floored
      else .error ⟨String.ofList (Decimal.integer t.epochMillis)⟩ := by
  by_cases h : t.floored.InRange
  case pos =>
    rw [if_pos h]
    simp only [floored] at h
    simp only [ofMillis, ofEpochMillis?, checked?, h, if_true, floored]
  case neg =>
    rw [if_neg h]
    simp only [floored] at h
    simp only [ofMillis, ofEpochMillis?, checked?, h, if_false]

end AnomalyDetection.Instant
