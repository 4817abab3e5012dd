import AnomalyDetection.Proofs.Engine.Buckets
import AnomalyDetection.Proofs.Outcome

namespace AnomalyDetection.Buckets

variable {start stop : Instant} {ms : Int} {limit : Nat} {b : Buckets}

-- Buckets that cover a window but for less than one interval at its end.
structure Tiling (b : Buckets) (start stop : Instant) (ms : Int) (limit : Nat) : Prop where
  nonempty : 1 ≤ b.count
  bounded : b.count ≤ limit
  -- Neither a bucket's number nor its offset is more than the longest span counts, so that none is
  -- cut off, and no bound lies outside of the calendar.
  offset : ∀ i < b.count, i ≤ Span.maxMillis ∧ ms * i ≤ Span.maxMillis ∧
    (b.bounds i).1 = start + Span.ofMillis (ms * i)
  inRange : ∀ i < b.count, (b.bounds i).1.InRange ∧ (b.bounds i).2.InRange
  first : (b.bounds 0).1 = start
  length : ∀ i < b.count, (b.bounds i).2 = (b.bounds i).1 + Span.ofMillis ms
  -- Behind the last bucket there would be another start, if not another end.
  next : ∀ i < b.count, (b.bounds (i + 1)).1 = (b.bounds i).2
  last : (b.bounds (b.count - 1)).2 ≤ stop
  rest : (stop - (b.bounds (b.count - 1)).2).nanoseconds < (Span.ofMillis ms).nanoseconds
  found : ∀ i < b.count, ∀ t : Instant, t.inLeapSecond = false →
    (b.bounds i).1 ≤ t → t < (b.bounds i).2 → b.indexOf? t = some i

-- Why a window has no buckets of so many milliseconds.
inductive Refuses (start stop : Instant) (ms : Int) (limit : Nat) : Fault → Prop
  | noInterval : ms ≤ 0 → Refuses start stop ms limit .noInterval
  | windowTooShort : 0 < ms → (stop - start).nanoseconds < (Span.ofMillis ms).nanoseconds →
    Refuses start stop ms limit .windowTooShort
  -- The count is that of the whole intervals in the window.
  | tooMany {count : Nat} : 0 < ms → limit < count →
    (Span.ofMillis (ms * count)).nanoseconds ≤ (stop - start).nanoseconds →
    (stop - start).nanoseconds < (Span.ofMillis (ms * (count + 1))).nanoseconds →
    Refuses start stop ms limit (.tooMany count limit)

-- How many whole intervals a window has.
theorem toNat_ediv_eq_iff {window : Span} {count : Nat} (hm : 0 < ms) (hc : 0 < count) :
    (window.millis / ms).toNat = count ↔
      (Span.ofMillis (ms * count)).nanoseconds ≤ window.nanoseconds ∧
        window.nanoseconds < (Span.ofMillis (ms * (count + 1))).nanoseconds := by
  have hp : 0 < ms * count := Int.mul_pos hm (by omega)
  have hp' : 0 < ms * (count + 1) := Int.mul_pos hm (by omega)
  have hl := Int.le_ediv_iff_mul_le (a := count) (b := window.millis) hm
  have hu := Int.ediv_lt_iff_lt_mul (a := window.millis) (b := count + 1) hm
  rw [Int.mul_comm, Span.le_millis hp] at hl
  rw [Int.mul_comm, Span.millis_lt hp'] at hu
  simp only [Span.ofMillis, ← hl, ← hu]
  omega

theorem split_eq_error {e : Fault} :
    split start stop (.ofMillis ms) limit = .error e ↔ Refuses start stop ms limit e := by
  unfold split
  simp only [Span.millis_ofMillis]
  constructor
  case mp =>
    intro h
    split at h
    case isTrue hm => cases h; exact .noInterval hm
    case isFalse hm =>
    rw [Int.not_le] at hm
    split at h
    case isTrue hw => cases h; exact .windowTooShort hm ((Span.millis_lt hm).mp hw)
    case isFalse =>
    split at h
    case isTrue hc =>
      cases h
      have ⟨hl, hu⟩ := (toNat_ediv_eq_iff hm (Nat.zero_lt_of_lt hc)).mp rfl
      exact .tooMany hm hc hl hu
    case isFalse => cases h
  case mpr =>
    intro h
    cases h
    case noInterval hm => rw [if_pos hm]
    case windowTooShort hm hw =>
      rw [if_neg (Int.not_le.mpr hm), if_pos ((Span.millis_lt hm).mpr hw)]
    case tooMany count hm hc hl hu =>
      have hp := Nat.zero_lt_of_lt hc
      have hn := (toNat_ediv_eq_iff hm hp).mpr ⟨hl, hu⟩
      -- There is an interval in the window, or else none would be too many.
      have hw : ms ≤ (stop - start).millis := by
        have h₁ : 0 < (stop - start).millis / ms := by omega
        have h₂ := Int.mul_le_of_le_ediv hm h₁
        omega
      rw [if_neg (Int.not_le.mpr hm), if_neg (Int.not_lt.mpr hw), hn, if_pos hc]

section

variable (hs : start.InRange) (he : stop.InRange) (hl : start.inLeapSecond = false)
  (hx : stop.inLeapSecond = false)

include hs he hl hx

theorem tiling_of_split (hb : split start stop (.ofMillis ms) limit = .ok b) :
    b.Tiling start stop ms limit := by
  have hc := count_pos hb
  have hz : ¬(stop.day = Instant.lastDay ∧ stop.second = 86399 ∧ stop.inLeapSecond) := by
    simp [hx]
  have hend := bounds_last hs he hl hb hx (Nat.sub_add_cancel hc)
  have heq {i : Nat} (hi : i < b.count) := bounds_eq hs he hb (Nat.le_of_lt hi)
  exact {
    nonempty := hc
    bounded := count_le hb
    offset := fun i hi => by
      have ⟨hm, _, _⟩ := split_eq_ok hb
      rw [Span.millis_ofMillis] at hm
      have ho := offset_le hs he hb (Nat.le_of_lt hi)
      have hn : 1 * (i : Int) ≤ ms * i := Int.mul_le_mul_of_nonneg_right hm (Int.natCast_nonneg i)
      rw [Int.one_mul] at hn
      exact ⟨Int.le_trans hn ho, ho, congrArg Prod.fst (heq hi)⟩
    inRange := fun i hi => inRange_bounds hs he hz hb hi
    first := bounds_zero hs he hl hb
    length := fun i hi => by rw [heq hi]
    next := fun i hi => bounds_succ hs he hl hb hi
    last := hend.left
    rest := by
      have ⟨_, h₂, _, _⟩ := bounds_of_split hs he hl hb (Nat.sub_le b.count 1)
      have h := hend.right
      rw [Instant.lt_iff_clock hx (Instant.inLeapSecond_add h₂ _), Instant.clock_add h₂] at h
      rw [Instant.nanoseconds_sub hx h₂]
      omega
    found := fun i hi t ht h₁ h₂ =>
      (indexOf?_iff_bounds hs he hl hb ht).mpr ⟨hi, .inl ⟨h₁, h₂⟩⟩ }

end

-- A window outside of leap seconds is split as it should be, whatever its length and the interval,
-- or it is refused for just one reason.
theorem split_tiles_or_refuses (ms : Int) (limit : Nat) (hs : start.InRange) (he : stop.InRange)
    (hl : start.inLeapSecond = false) (hx : stop.inLeapSecond = false) :
    (∀ b, split start stop (.ofMillis ms) limit = .ok b → b.Tiling start stop ms limit) ∧
    (∀ e, split start stop (.ofMillis ms) limit = .error e ↔ Refuses start stop ms limit e) :=
  ⟨fun _ => tiling_of_split hs he hl hx, fun _ => split_eq_error⟩

-- All of the calendar in buckets of a millisecond, and a limit of one less than there are.
theorem split_tiles_or_refuses_calendar :
    let start : Instant := .ofParts Instant.firstDay 0 0
    let stop : Instant := .ofParts Instant.lastDay 86399 999999999
    let count : Nat := 16544868105599999
    let b : Buckets := ⟨start, .ofMillis 1, count⟩
    start.InRange ∧ stop.InRange ∧ start.inLeapSecond = false ∧ stop.inLeapSecond = false ∧
    split start stop (.ofMillis 1) count = .ok b ∧ b.Tiling start stop 1 count ∧
    split start stop (.ofMillis 1) (count - 1) = .error (.tooMany count (count - 1)) := by
  intro start stop count b
  have hs : start.InRange := by decide
  have he : stop.InRange := by decide
  have hb : split start stop (.ofMillis 1) count = .ok b :=
    Outcome.eq_ok_of_toOption (by decide +kernel)
  have hr : Refuses start stop 1 (count - 1) (.tooMany count (count - 1)) :=
    .tooMany (by decide) (by decide) (by decide +kernel) (by decide +kernel)
  exact ⟨hs, he, rfl, rfl, hb, (split_tiles_or_refuses 1 count hs he rfl rfl).left b hb,
    ((split_tiles_or_refuses 1 (count - 1) hs he rfl rfl).right _).mpr hr⟩

end AnomalyDetection.Buckets
