import AnomalyDetection.Engine.Buckets
import AnomalyDetection.Proofs.Time.Wall

namespace AnomalyDetection.Buckets

variable {b : Buckets} {start stop t : Instant} {interval : Span} {limit i : Nat} {ms : Int}

theorem split_eq_ok (h : split start stop interval limit = .ok b) :
    0 < interval.millis ∧ interval.millis ≤ (stop - start).millis ∧
      b = ⟨start, interval, ((stop - start).millis / interval.millis).toNat⟩ := by
  unfold split at h
  dsimp only at h
  split at h
  case isTrue => cases h
  case isFalse hi =>
  split at h
  case isTrue => cases h
  case isFalse hw =>
  split at h
  case isTrue => cases h
  case isFalse =>
    cases h
    exact ⟨Int.not_le.mp hi, Int.not_lt.mp hw, rfl⟩

theorem count_pos (h : split start stop interval limit = .ok b) : 0 < b.count := by
  have ⟨hi, hw, he⟩ := split_eq_ok h
  subst he
  exact Int.lt_toNat.mpr (Int.le_ediv_of_mul_le hi (Int.one_mul _ ▸ hw))

theorem count_le (h : split start stop interval limit = .ok b) : b.count ≤ limit := by
  unfold split at h
  dsimp only at h
  repeat' split at h
  all_goals cases h
  case isFalse hc => exact Nat.le_of_not_lt hc

-- The instants of the calendar lie no further apart than a span can be long.
theorem millis_sub_le (hs : start.InRange) (he : stop.InRange) :
    (stop - start).millis ≤ Span.maxMillis := by
  have hf : Instant.firstDay = -96465292 := by decide
  have hl : Instant.lastDay = 95026236 := by decide
  have hm : Span.maxMillis = 9223372036854775807 := by decide
  have := start.second_lt
  have := stop.second_lt
  have := stop.nanosecond_lt
  have hb : (stop - start).nanoseconds ≤ 191491530 * 86400 * 1000000000 := by
    change (stop.sub start).nanoseconds ≤ _
    simp only [Instant.InRange, hf, hl] at hs he
    simp only [Instant.sub, giga] at *
    split <;> omega
  have ht := Int.tmod_add_mul_tdiv (stop - start).nanoseconds 1000000
  have hr := Int.lt_tmod_of_pos (stop - start).nanoseconds (b := 1000000) (by decide)
  rw [Span.millis, hm]
  omega

-- Time is cut to whole milliseconds towards the start of the window, on both sides of it: the first
-- bucket also takes what is less than a millisecond early.
theorem indexOf?_eq_some_iff (hm : 0 < b.interval.millis) :
    b.indexOf? t = some i ↔ i < b.count ∧ 0 ≤ (t - b.start).millis ∧
      b.interval.millis * i ≤ (t - b.start).millis ∧
      (t - b.start).millis < b.interval.millis * (i + 1) := by
  unfold indexOf?
  generalize b.interval.millis = ms at *
  generalize (t - b.start).millis = offset
  dsimp only
  have hl := Int.le_ediv_iff_mul_le (a := i) (b := offset) hm
  have hu := Int.ediv_lt_iff_lt_mul (a := offset) (b := i + 1) hm
  rw [Int.mul_comm] at hl
  rw [Int.mul_comm] at hu
  split
  case isTrue h => simp [Int.not_le.mpr h]
  case isFalse h =>
    have hn := Int.ediv_nonneg (Int.not_lt.mp h) (Int.le_of_lt hm)
    rw [Option.ite_none_right_eq_some, Option.some.injEq]
    omega

-- The time since the start of the window decides, in nanoseconds.
theorem indexOf?_iff_elapsed (hi : b.interval = .ofMillis ms) (hm : 0 < ms) :
    b.indexOf? t = some i ↔ i < b.count ∧
      (ms * i * 1000000 ≤ (t - b.start).nanoseconds ∧
        (t - b.start).nanoseconds < ms * (i + 1) * 1000000 ∨
      i = 0 ∧ -1000000 < (t - b.start).nanoseconds ∧ (t - b.start).nanoseconds < 0) := by
  have hp : 0 < ms * (i + 1) := Int.mul_pos hm (by omega)
  rw [indexOf?_eq_some_iff (by rwa [hi, Span.millis_ofMillis]), hi, Span.millis_ofMillis,
    Span.millis_nonneg, Span.millis_lt hp, and_congr_right_iff]
  intro _
  by_cases hn : i = 0
  case pos =>
    subst hn
    have := Span.millis_nonneg (s := t - b.start)
    simp only [Int.natCast_zero, Int.mul_zero, Int.zero_add, Int.mul_one, Int.zero_mul,
      true_and] at *
    omega
  case neg =>
    have hz : 0 < ms * i := Int.mul_pos hm (by omega)
    rw [Span.le_millis hz]
    omega

theorem mul_le_window (hb : split start stop (.ofMillis ms) limit = .ok b) (hi : i ≤ b.count) :
    ms * i ≤ (stop - start).millis := by
  have ⟨hm, hw, hb⟩ := split_eq_ok hb
  subst hb
  rw [Span.millis_ofMillis] at hm hw hi
  have hd := Int.ediv_nonneg (Int.le_trans (Int.le_of_lt hm) hw) (Int.le_of_lt hm)
  have hk := Int.mul_le_mul_of_nonneg_right ((Int.le_toNat hd).mp hi) (Int.le_of_lt hm)
  rw [Int.mul_comm]
  exact Int.le_trans hk (Int.ediv_mul_le _ (Int.ne_of_gt hm))

theorem succ_mul_le_window (hb : split start stop (.ofMillis ms) limit = .ok b) (hi : i < b.count) :
    ms * (i + 1) ≤ (stop - start).millis :=
  mul_le_window hb hi

-- A bucket starts inside the window or at its end, so its offset is no longer than a span can be.
theorem offset_le (hs : start.InRange) (he : stop.InRange)
    (hb : split start stop (.ofMillis ms) limit = .ok b) (hi : i ≤ b.count) :
    ms * i ≤ Span.maxMillis :=
  Int.le_trans (mul_le_window hb hi) (millis_sub_le hs he)

theorem bounds_eq (hs : start.InRange) (he : stop.InRange)
    (hb : split start stop (.ofMillis ms) limit = .ok b) (hi : i ≤ b.count) :
    b.bounds i = (start + Span.ofMillis (ms * i),
      start + Span.ofMillis (ms * i) + Span.ofMillis ms) := by
  have ho := offset_le hs he hb hi
  have ⟨_, _, hb⟩ := split_eq_ok hb
  subst hb
  simp only [bounds, Span.millis_ofMillis, Int.min_eq_left ho]

-- Leap seconds or not, buckets end inside the window, and so on days that there are.
theorem inRange_bounds (hs : start.InRange) (he : stop.InRange)
    (hl : ¬(stop.day = Instant.lastDay ∧ stop.second = 86399 ∧ stop.inLeapSecond))
    (hb : split start stop (.ofMillis ms) limit = .ok b) (hi : i < b.count) :
    (b.bounds i).1.InRange ∧ (b.bounds i).2.InRange := by
  have ⟨hm, _, _⟩ := split_eq_ok hb
  rw [Span.millis_ofMillis] at hm
  have hz : 0 ≤ ms * i := Int.mul_nonneg (Int.le_of_lt hm) (Int.natCast_nonneg i)
  have hp : 0 < ms * (i + 1) := Int.mul_pos hm (by omega)
  have hw := (Span.le_millis hp).mp (succ_mul_le_window hb hi)
  have hc := Instant.wall_add_sub_le start stop
  have h₁ : (start + Span.ofMillis (ms * i)).wall = start.wall + ms * i * 1000000 :=
    Instant.wall_add (by simp only [Span.ofMillis]; omega)
  have h₂ : (start + Span.ofMillis (ms * i) + Span.ofMillis ms).wall =
      start.wall + ms * i * 1000000 + ms * 1000000 :=
    h₁ ▸ Instant.wall_add (by simp only [Span.ofMillis]; omega)
  rw [Int.mul_add] at hw
  have r₁ := Instant.inRange_of_wall hs he hl (t := start + Span.ofMillis (ms * i))
    (by omega) (by omega)
  have r₂ := Instant.inRange_of_wall hs he hl
    (t := start + Span.ofMillis (ms * i) + Span.ofMillis ms) (by omega) (by omega)
  rw [bounds_eq hs he hb (Nat.le_of_lt hi)]
  exact ⟨r₁, r₂⟩

section Bounds

variable (hs : start.InRange) (he : stop.InRange) (hl : start.inLeapSecond = false)
  (hb : split start stop (.ofMillis ms) limit = .ok b)

include hs he hl hb

theorem bounds_of_split (hi : i ≤ b.count) :
    (b.bounds i).1.inLeapSecond = false ∧ (b.bounds i).2.inLeapSecond = false ∧
      (b.bounds i).1.clock = start.clock + ms * i * 1000000 ∧
      (b.bounds i).2.clock = start.clock + ms * (i + 1) * 1000000 := by
  have h₁ := Instant.inLeapSecond_add hl (.ofMillis (ms * i))
  rw [bounds_eq hs he hb hi]
  refine ⟨h₁, Instant.inLeapSecond_add h₁ _, Instant.clock_add hl _, ?_⟩
  rw [Instant.clock_add h₁, Instant.clock_add hl, Span.ofMillis, Span.ofMillis, Int.mul_add,
    Int.mul_one]
  dsimp only
  omega

theorem bounds_zero : (b.bounds 0).1 = start := by
  have ⟨h₁, _, hc, _⟩ := bounds_of_split hs he hl hb (Nat.zero_le b.count)
  exact Instant.eq_of_clock h₁ hl (by rw [hc]; omega)

theorem bounds_succ (hi : i < b.count) : (b.bounds (i + 1)).1 = (b.bounds i).2 := by
  have ⟨h₁, _, hc₁, _⟩ := bounds_of_split hs he hl hb hi
  have ⟨_, h₂, _, hc₂⟩ := bounds_of_split hs he hl hb (Nat.le_of_lt hi)
  exact Instant.eq_of_clock h₁ h₂ (by rw [hc₁, hc₂, Int.natCast_succ])

theorem bounds_sub (hi : i < b.count) : (b.bounds i).2 - (b.bounds i).1 = Span.ofMillis ms := by
  have ⟨h₁, h₂, hc₁, hc₂⟩ := bounds_of_split hs he hl hb (Nat.le_of_lt hi)
  ext
  rw [Instant.nanoseconds_sub h₂ h₁, hc₁, hc₂, Span.ofMillis, Int.mul_add]
  dsimp only
  omega

-- What is left of the window behind the last bucket is shorter than a bucket.
theorem bounds_last (hx : stop.inLeapSecond = false) (hi : i + 1 = b.count) :
    (b.bounds i).2 ≤ stop ∧ stop < (b.bounds i).2 + Span.ofMillis ms := by
  have ⟨hm, hw, hb'⟩ := split_eq_ok hb
  rw [Span.millis_ofMillis] at hm hw hb'
  have ⟨_, h₂, _, hc⟩ := bounds_of_split hs he hl hb (i := i) (by omega)
  have hn : ((i : Int) + 1) = (stop - start).millis / ms := by
    have hd := Int.ediv_nonneg (Int.le_trans (Int.le_of_lt hm) hw) (Int.le_of_lt hm)
    rw [hb'] at hi
    dsimp only at hi
    omega
  have hlo := succ_mul_le_window hb (i := i) (by omega)
  have hhi : (stop - start).millis < ms * (i + 1 + 1) := by
    rw [hn, Int.mul_comm]
    exact Int.lt_ediv_add_one_mul_self _ hm
  have hp : 0 < ms * (i + 1) := Int.mul_pos hm (by omega)
  have hp' : 0 < ms * (i + 1 + 1) := Int.mul_pos hm (by omega)
  rw [Span.le_millis hp, Instant.nanoseconds_sub hx hl] at hlo
  rw [Span.millis_lt hp', Instant.nanoseconds_sub hx hl, Int.mul_add] at hhi
  rw [Instant.le_iff_clock h₂ hx, Instant.lt_iff_clock hx (Instant.inLeapSecond_add h₂ _),
    Instant.clock_add h₂, hc, Span.ofMillis]
  dsimp only
  omega

theorem indexOf?_iff_bounds (ht : t.inLeapSecond = false) :
    b.indexOf? t = some i ↔ i < b.count ∧ ((b.bounds i).1 ≤ t ∧ t < (b.bounds i).2 ∨
      i = 0 ∧ t < start ∧ start < t + Span.ofMillis 1) := by
  have ⟨hm, _, he'⟩ := split_eq_ok hb
  have hi : b.interval = .ofMillis ms := by rw [he']
  have hs' : b.start = start := by rw [he']
  rw [Span.millis_ofMillis] at hm
  rw [indexOf?_iff_elapsed hi hm, hs', Instant.nanoseconds_sub ht hl, and_congr_right_iff]
  intro hc
  have ⟨h₁, h₂, hc₁, hc₂⟩ := bounds_of_split hs he hl hb (Nat.le_of_lt hc)
  rw [Instant.le_iff_clock h₁ ht, Instant.lt_iff_clock ht h₂, Instant.lt_iff_clock ht hl,
    Instant.lt_iff_clock hl (Instant.inLeapSecond_add ht _), Instant.clock_add ht, hc₁, hc₂,
    Span.ofMillis]
  dsimp only
  omega

-- An instant that is a whole millisecond early, or not before the end of the last bucket.
theorem indexOf?_eq_none (ht : t.inLeapSecond = false)
    (h : t + Span.ofMillis 1 ≤ start ∨ (b.bounds (b.count - 1)).2 ≤ t) : b.indexOf? t = none := by
  rw [Option.eq_none_iff_forall_ne_some]
  intro i hi
  have ⟨hm, _, _⟩ := split_eq_ok hb
  rw [Span.millis_ofMillis] at hm
  have hp := count_pos hb
  have ⟨hc, hi⟩ := (indexOf?_iff_bounds hs he hl hb ht).mp hi
  have ⟨h₁, h₂, hc₁, hc₂⟩ := bounds_of_split hs he hl hb (Nat.le_of_lt hc)
  have ⟨_, h₄, _, hc₄⟩ := bounds_of_split hs he hl hb (i := b.count - 1) (by omega)
  have hk : ms * (i + 1) ≤ ms * ((b.count - 1 : Nat) + 1) :=
    Int.mul_le_mul_of_nonneg_left (by omega) (Int.le_of_lt hm)
  have hz : 0 ≤ ms * i := Int.mul_nonneg (Int.le_of_lt hm) (Int.natCast_nonneg i)
  have hn : 0 < ms * (i + 1) := Int.mul_pos hm (by omega)
  rw [Instant.le_iff_clock (Instant.inLeapSecond_add ht _) hl, Instant.le_iff_clock h₄ ht,
    Instant.clock_add ht, hc₄, Span.ofMillis] at h
  rw [Instant.le_iff_clock h₁ ht, Instant.lt_iff_clock ht h₂, Instant.lt_iff_clock ht hl,
    Instant.lt_iff_clock hl (Instant.inLeapSecond_add ht _), Instant.clock_add ht, hc₁, hc₂,
    Span.ofMillis] at hi
  dsimp only at h hi
  omega

end Bounds

end AnomalyDetection.Buckets
