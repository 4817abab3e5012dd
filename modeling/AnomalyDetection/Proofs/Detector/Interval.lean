import AnomalyDetection.Detector.Interval

namespace AnomalyDetection

-- A whole number of seconds is a span if it is one in milliseconds.
theorem Span.ofSeconds?_eq_some {n : Int64} {s : Span} : ofSeconds? n = some s ↔
    (-maxMillis ≤ n.toInt * 1000 ∧ n.toInt * 1000 ≤ maxMillis) ∧ s = ofMillis (n.toInt * 1000) := by
  have hr : -(Int64.maxValue / 1000) ≤ n ∧ n ≤ Int64.maxValue / 1000 ↔
      -maxMillis ≤ n.toInt * 1000 ∧ n.toInt * 1000 ≤ maxMillis := by
    have hm : maxMillis = 9223372036854775807 := rfl
    have hl : (-(Int64.maxValue / 1000)).toInt = -9223372036854775 := by decide
    have hu : (Int64.maxValue / 1000).toInt = 9223372036854775 := by decide
    rw [Int64.le_iff_toInt_le, Int64.le_iff_toInt_le, hl, hu, hm]
    omega
  simp only [ofSeconds?, hr]
  split
  case isTrue h => rw [Option.some.injEq, eq_comm, and_iff_right h]
  case isFalse h => exact ⟨nofun, fun hs => absurd hs.1 h⟩

namespace Interval

variable {i : Interval}

theorem product?_eq_some {a b c : Int64} :
    product? a b = some c ↔ c.toInt = a.toInt * b.toInt := by
  unfold product?
  split
  case isTrue h =>
    refine ⟨nofun, fun hc => ?_⟩
    have hl := Int64.le_toInt c
    have hu := Int64.toInt_lt c
    simp only [BitVec.smulOverflow, Int64.toInt_toBitVec, ← hc, Bool.or_eq_true,
      decide_eq_true_eq] at h
    omega
  case isFalse h =>
    have hp : (a * b).toInt = a.toInt * b.toInt := BitVec.toInt_mul_of_not_smulOverflow h
    rw [← hp, Option.some.injEq, eq_comm, Int64.toInt_inj]

theorem Unit.inSeconds_pos (u : Unit) : 0 < u.inSeconds := by
  cases u <;> decide

theorem toInt_inSeconds (u : Unit) : (Int64.ofNat u.inSeconds).toInt = u.inSeconds := by
  cases u <;> decide

theorem toInt_count (h : i.count.toNat < UInt64.size / 2) :
    i.count.toInt64.toInt = i.count.toNat :=
  BitVec.toInt_eq_toNat_of_lt (Nat.mul_lt_mul_of_pos_left h (by decide))

-- Lengths are made of words of 64 bits; they are those of the whole numbers, as every product is
-- checked.
def length (i : Interval) : Span :=
  .ofMillis (i.count.toNat * i.unit.inSeconds * 1000)

-- What keeps an interval from having its length.
inductive Lacks (i : Interval) : Interval.Fault → Prop
  | tooLarge : UInt64.size / 2 ≤ i.count.toNat → Lacks i (.tooLarge i.count)
  | zero : i.count.toNat = 0 → Lacks i .zero
  | outOfRange : 0 < i.count.toNat → i.count.toNat < UInt64.size / 2 →
    Span.maxMillis < i.length.millis → Lacks i (.outOfRange i.count)

theorem millis_length : i.length.millis = i.count.toNat * i.unit.inSeconds * 1000 :=
  Span.millis_ofMillis _

-- The words that a length is made of are as good as whole numbers.
theorem seconds?_eq_some (h : i.count.toNat < UInt64.size / 2) {s : Span} :
    (product? i.count.toInt64 (.ofNat i.unit.inSeconds)).bind Span.ofSeconds? = some s ↔
      i.length.millis ≤ Span.maxMillis ∧ s = i.length := by
  have hn := Int.mul_nonneg (Int.natCast_nonneg i.count.toNat) (Int.natCast_nonneg i.unit.inSeconds)
  simp only [Option.bind_eq_some_iff, product?_eq_some, Span.ofSeconds?_eq_some, toInt_count h,
    toInt_inSeconds, millis_length]
  constructor
  case mp =>
    rintro ⟨n, hn, ⟨_, hu⟩, rfl⟩
    exact ⟨hn ▸ hu, congrArg (fun n => Span.ofMillis (n * 1000)) hn⟩
  case mpr =>
    rintro ⟨hu, rfl⟩
    have hm : Span.maxMillis = 9223372036854775807 := rfl
    have hr : (Int64.ofInt (i.count.toNat * i.unit.inSeconds)).toInt =
        i.count.toNat * i.unit.inSeconds :=
      Int64.toInt_ofInt_of_le (by omega) (by omega)
    refine ⟨_, hr, ?_, congrArg (fun n => Span.ofMillis (n * 1000)) hr.symm⟩
    rw [hr]
    omega

theorem span_eq (i : Interval) : i.span =
    if UInt64.size / 2 ≤ i.count.toNat then .error (.tooLarge i.count)
    else if i.count.toNat = 0 then .error .zero
    else if i.length.millis ≤ Span.maxMillis then .ok i.length
    else .error (.outOfRange i.count) := by
  have hz : i.count = 0 ↔ i.count.toNat = 0 := UInt64.toNat_inj.symm
  simp only [span, hz]
  split
  case isTrue => rfl
  case isFalse hc =>
    have hs {s : Span} := seconds?_eq_some (i := i) (s := s) (Nat.lt_of_not_le hc)
    congr
    split
    case h_1 s h => rw [if_pos (hs.mp h).1, (hs.mp h).2]
    case h_2 h =>
      rw [if_neg]
      intro hm
      cases h.symm.trans (hs.mpr ⟨hm, rfl⟩)

theorem millis_length_pos : 0 < i.length.millis ↔ 0 < i.count.toNat := by
  have hu := i.unit.inSeconds_pos
  have hp : 0 < i.count.toNat * i.unit.inSeconds ↔ 0 < i.count.toNat :=
    Nat.mul_pos_iff_of_pos_right hu
  rw [millis_length]
  omega

theorem span_eq_ok {s : Span} (h : i.span = .ok s) : 0 < i.length.millis ∧ s = i.length := by
  rw [span_eq] at h
  split at h
  case isTrue => cases h
  split at h
  case isTrue => cases h
  case isFalse hz =>
  split at h
  case isTrue =>
    cases h
    exact ⟨millis_length_pos.mpr (Nat.pos_of_ne_zero hz), rfl⟩
  case isFalse => cases h

theorem span_eq_error {e : Interval.Fault} : i.span = .error e ↔ i.Lacks e := by
  rw [span_eq]
  constructor
  case mp =>
    intro h
    split at h
    case isTrue hc =>
      cases h
      exact .tooLarge hc
    case isFalse hc =>
    split at h
    case isTrue hz =>
      cases h
      exact .zero hz
    case isFalse hz =>
    split at h
    case isTrue => cases h
    case isFalse hm =>
      cases h
      exact .outOfRange (Nat.pos_of_ne_zero hz) (Nat.lt_of_not_le hc)
        (Int.lt_of_not_ge hm)
  case mpr =>
    intro h
    cases h
    case tooLarge hc => rw [if_pos hc]
    case zero hz => rw [hz, if_neg (by decide), if_pos rfl]
    case outOfRange hz hc hm =>
      rw [if_neg (Nat.not_le_of_lt hc), if_neg (Nat.ne_of_gt hz), if_neg (Int.not_le.mpr hm)]

end AnomalyDetection.Interval
