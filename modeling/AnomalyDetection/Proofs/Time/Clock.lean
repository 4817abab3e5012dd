import AnomalyDetection.Time.Instant

namespace AnomalyDetection

namespace Span

variable {s : Span} {ms : Int}

-- Milliseconds are cut off towards zero, so they say little about a span of less than one.
theorem millis_nonneg : 0 ≤ s.millis ↔ -1000000 < s.nanoseconds := by
  rw [millis, Int.tdiv_eq_ediv, Int.sign_eq_one_of_pos (by decide)]
  split <;> omega

theorem le_millis (h : 0 < ms) : ms ≤ s.millis ↔ ms * 1000000 ≤ s.nanoseconds := by
  rw [millis, Int.tdiv_eq_ediv, Int.sign_eq_one_of_pos (by decide)]
  split <;> omega

theorem millis_lt (h : 0 < ms) : s.millis < ms ↔ s.nanoseconds < ms * 1000000 := by
  have := le_millis (s := s) h
  omega

end Span

namespace Instant

variable {t u : Instant}

-- Outside of leap seconds, instants are numbers: nanoseconds on a clock that never stands still.
-- Their order, the spans between them and the instants that lie a span away are those of the
-- numbers.
def clock (t : Instant) : Int :=
  (t.day * 86400 + t.second) * giga + t.nanosecond

theorem nanosecond_lt_giga (h : t.inLeapSecond = false) : t.nanosecond < giga :=
  Nat.lt_of_not_le (of_decide_eq_false h)

theorem lt_iff : t < u ↔ t.day < u.day ∨ t.day = u.day ∧
    (t.second < u.second ∨ t.second = u.second ∧ t.nanosecond < u.nanosecond) := by
  change t.lt u = true ↔ _
  simp [lt]

theorem lt_iff_clock (ht : t.inLeapSecond = false) (hu : u.inLeapSecond = false) :
    t < u ↔ t.clock < u.clock := by
  have := nanosecond_lt_giga ht
  have := nanosecond_lt_giga hu
  have := t.second_lt
  have := u.second_lt
  rw [lt_iff]
  simp only [clock, giga] at *
  omega

theorem le_iff_clock (ht : t.inLeapSecond = false) (hu : u.inLeapSecond = false) :
    t ≤ u ↔ t.clock ≤ u.clock :=
  (not_congr (lt_iff_clock hu ht)).trans Int.not_lt

theorem eq_of_clock (ht : t.inLeapSecond = false) (hu : u.inLeapSecond = false)
    (h : t.clock = u.clock) : t = u := by
  have := nanosecond_lt_giga ht
  have := nanosecond_lt_giga hu
  have := t.second_lt
  have := u.second_lt
  simp only [clock, giga] at *
  ext <;> omega

theorem nanoseconds_sub (ht : t.inLeapSecond = false) (hu : u.inLeapSecond = false) :
    (t - u).nanoseconds = t.clock - u.clock := by
  change (t.sub u).nanoseconds = _
  simp only [sub, ht, hu, clock, Bool.false_eq_true, and_false, if_false, giga]
  omega

theorem clock_ofParts (day seconds nanoseconds : Int) :
    (ofParts day seconds nanoseconds).clock = (day * 86400 + seconds) * giga + nanoseconds := by
  simp only [clock, ofParts, giga]
  omega

theorem inLeapSecond_ofParts (day seconds nanoseconds : Int) :
    (ofParts day seconds nanoseconds).inLeapSecond = false := by
  refine decide_eq_false ?_
  simp only [ofParts, giga]
  omega

theorem add_eq_ofParts (h : t.inLeapSecond = false) (s : Span) :
    t + s = ofParts t.day (t.second + s.nanoseconds.tdiv giga)
      (t.nanosecond + s.nanoseconds.tmod giga) := by
  change t.add s = _
  simp only [add, h, Bool.false_eq_true, if_false]

theorem inLeapSecond_add (h : t.inLeapSecond = false) (s : Span) :
    (t + s).inLeapSecond = false :=
  add_eq_ofParts h s ▸ inLeapSecond_ofParts ..

theorem clock_add (h : t.inLeapSecond = false) (s : Span) :
    (t + s).clock = t.clock + s.nanoseconds := by
  have hs := Int.tmod_add_mul_tdiv s.nanoseconds giga
  rw [add_eq_ofParts h, clock_ofParts, clock]
  simp only [giga] at *
  omega

end Instant
end AnomalyDetection
