import AnomalyDetection.Proofs.Time.Clock

namespace AnomalyDetection.Instant

variable {t start stop : Instant} {s : Span}

-- A clock on the wall, on which a leap second is the second before once more. Spans that lie ahead
-- add up on it from any instant on, so it tells what instants are out of range.
def wall (t : Instant) : Int :=
  (t.day * 86400 + t.second) * giga + (t.nanosecond % giga : Nat)

theorem wall_eq_clock (h : t.inLeapSecond = false) : t.wall = t.clock := by
  rw [wall, clock, Nat.mod_eq_of_lt (nanosecond_lt_giga h)]

theorem wall_eq_of_leap (h : t.inLeapSecond = true) : t.wall = t.clock - giga := by
  have hn : giga ≤ t.nanosecond := of_decide_eq_true h
  have := t.nanosecond_lt
  simp only [wall, clock, giga] at *
  omega

theorem day_eq_wall (t : Instant) : t.day = t.wall / (86400 * giga) := by
  have := t.second_lt
  simp only [wall, giga]
  omega

theorem wall_add (h : 0 ≤ s.nanoseconds) : (t + s).wall = t.wall + s.nanoseconds := by
  cases hl : t.inLeapSecond
  case false => rw [wall_eq_clock (inLeapSecond_add hl s), wall_eq_clock hl, clock_add hl]
  case true =>
    have hs := Int.tmod_add_mul_tdiv s.nanoseconds giga
    have hr := Int.tmod_nonneg (giga : Int) h
    have hq := Int.tdiv_nonneg h (Int.natCast_nonneg giga)
    have hn : giga ≤ t.nanosecond := of_decide_eq_true hl
    change (t.add s).wall = _
    rw [wall_eq_of_leap hl]
    unfold add
    simp only [hl, if_true]
    split
    case isTrue =>
      rw [wall_eq_clock (inLeapSecond_ofParts ..), clock_ofParts, clock]
      simp only [giga] at *
      omega
    case isFalse hc =>
      rw [if_neg (Int.not_lt.mpr hq)]
      simp only [wall, clock]
      simp only [giga] at *
      omega

-- Within a window, the wall never runs ahead of the clock at the end.
theorem wall_add_sub_le (start stop : Instant) :
    start.wall + (stop - start).nanoseconds ≤ stop.clock := by
  change start.wall + (stop.sub start).nanoseconds ≤ stop.clock
  cases h : start.inLeapSecond
  case false =>
    rw [wall_eq_clock h]
    simp only [sub, h, clock, giga, Bool.false_eq_true, and_false, if_false]
    split <;> omega
  case true =>
    rw [wall_eq_of_leap h]
    simp only [sub, h, clock, giga]
    repeat' split
    all_goals omega

-- What lies between two days is in range. Behind the very last second there is nothing, not even a
-- leap second.
theorem inRange_of_wall (hs : start.InRange) (he : stop.InRange)
    (hl : ¬(stop.day = lastDay ∧ stop.second = 86399 ∧ stop.inLeapSecond))
    (h₁ : start.wall ≤ t.wall) (h₂ : t.wall ≤ stop.clock) : t.InRange := by
  constructor
  case left =>
    refine Int.le_trans hs.left ?_
    rw [day_eq_wall, day_eq_wall]
    exact Int.ediv_le_ediv (by decide) h₁
  case right =>
    have hr := he.right
    have := stop.second_lt
    have := stop.nanosecond_lt
    have hi : stop.inLeapSecond = true ↔ giga ≤ stop.nanosecond := decide_eq_true_iff
    rw [hi] at hl
    rw [day_eq_wall]
    simp only [clock, giga] at *
    omega

end AnomalyDetection.Instant
