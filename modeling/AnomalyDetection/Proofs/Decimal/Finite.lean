import AnomalyDetection.Decimal.Numeral
import AnomalyDetection.Proofs.Decimal.Rounding

namespace AnomalyDetection.Rounding

open Float.Model (Format UnpackedFloat totalExponent)
open Float.Model.UnpackedFloat (Accuracy Sign roundWithAccuracy)

section Arithmetic

variable {x y : Float} {s t : Sign} {m n : Nat} {e f : Int} {acc : Accuracy}

-- Sums, differences and quotients do not get finite again.
theorem not_isFinite_add (h : ¬x.isFinite ∨ ¬y.isFinite) : ¬(x + y).isFinite := by
  have hs : x + y = .ofModel (.pack (.add .binary64 x.toModel.unpack y.toModel.unpack)) := rfl
  have hu (x : Float) : x.isFinite = x.toModel.unpack.isFinite := rfl
  rw [hu, hu] at h
  rw [hs, isFinite_pack]
  generalize x.toModel.unpack = a at h
  generalize y.toModel.unpack = b at h
  cases a <;> cases b
  case infinity.infinity s t => cases s <;> cases t <;> exact id
  all_goals first
    | exact id
    | exact absurd rfl (h.elim id id)

theorem not_isFinite_sub (h : ¬x.isFinite ∨ ¬y.isFinite) : ¬(x - y).isFinite := by
  have hs : x - y = .ofModel (.pack (.sub .binary64 x.toModel.unpack y.toModel.unpack)) := rfl
  have hu (x : Float) : x.isFinite = x.toModel.unpack.isFinite := rfl
  rw [hu, hu] at h
  rw [hs, isFinite_pack]
  generalize x.toModel.unpack = a at h
  generalize y.toModel.unpack = b at h
  cases a <;> cases b
  case infinity.infinity s t => cases s <;> cases t <;> exact id
  all_goals first
    | exact id
    | exact absurd rfl (h.elim id id)

theorem not_isFinite_div (h : ¬x.isFinite) : ¬(x / y).isFinite := by
  have hq : x / y = .ofModel (.pack (.div .binary64 x.toModel.unpack y.toModel.unpack)) := rfl
  have hu : x.isFinite = x.toModel.unpack.isFinite := rfl
  rw [hu] at h
  rw [hq, isFinite_pack]
  generalize x.toModel.unpack = a at h
  generalize y.toModel.unpack = b
  cases a <;> cases b
  all_goals first
    | exact id
    | exact absurd rfl h

theorem isFinite_abs : x.abs.isFinite ↔ x.isFinite := by
  have hn : x.abs = .ofModel (.pack x.toModel.unpack.abs) := rfl
  rw [hn, isFinite_pack, isFinite_iff]
  cases x.toModel.unpack <;> rfl

theorem isFinite_neg : (-x).isFinite ↔ x.isFinite := by
  have hn : -x = .ofModel (.pack x.toModel.unpack.neg) := rfl
  rw [hn, isFinite_pack, isFinite_iff]
  cases x.toModel.unpack <;> rfl

-- Only by how much one power is greater than the other is of any matter.
theorem mul_pow_lt_iff {a b p q p' q' : Nat} (h : p + q' = p' + q) :
    a * 2 ^ p < b * 2 ^ q ↔ a * 2 ^ p' < b * 2 ^ q' := by
  have hp (k : Nat) : 0 < 2 ^ k := by positivity
  have hl : a * 2 ^ p * 2 ^ q' = a * 2 ^ p' * 2 ^ q := by
    rw [Nat.mul_assoc, Nat.mul_assoc, ← Nat.pow_add, ← Nat.pow_add, h]
  rw [← Nat.mul_lt_mul_right (hp q'), hl, Nat.mul_right_comm b, Nat.mul_lt_mul_right (hp q)]

-- A quotient is finite if the one of the exact numbers is below the limit.
theorem fits_div_iff {hm : 0 < m} {hn : 0 < n}
    (ht : e - f ≤ 971 ∨ totalExponent m e - totalExponent n f ≤ 1024) :
    Fits (.div .binary64 (.finite s m e hm) (.finite t n f hn)) ↔
      m * 2 ^ (e - f).toNat < limit * (n * 2 ^ (f - e).toNat) := by
  generalize hg : min (e - f) (max (totalExponent m e - totalExponent n f - 53) (-1074)) = g
  have hd : UnpackedFloat.div .binary64 (.finite s m e hm) (.finite t n f hn) =
      roundWithAccuracy .binary64 (s / t) (m <<< (e - f - g).toNat / n) g
        (UnpackedFloat.accuracyOfFraction (m <<< (e - f - g).toNat % n) n) := by
    rw [← hg]
    rfl
  rw [hd, fits_round_iff_lt hn (leads_fraction _ hn) (by omega), Nat.shiftLeft_eq, Nat.mul_assoc,
    ← Nat.pow_add, ← Nat.mul_assoc, ← Nat.mul_assoc]
  exact mul_pow_lt_iff (by omega)

-- Doubles that are one or more, up to the sign.
def AtLeastOne (x : Float) : Prop := 1023 ≤ field x.toBits.toBitVec ∧ x.isFinite

instance : Decidable (AtLeastOne x) := inferInstanceAs (Decidable (_ ∧ _))

theorem isFinite_div (hx : x.isFinite) (hy : AtLeastOne y) : (x / y).isFinite := by
  have ⟨hl, hf⟩ := hy
  have hf : field y.toBits.toBitVec < 2047 :=
    Nat.lt_of_le_of_ne (Nat.le_of_lt_succ (BitVec.isLt _)) ((isFinite_unpack _).mp hf)
  have ⟨t, n, hn, hu, hm⟩ := exists_unpack (by omega) hf
  have hu : y.toModel.unpack = .finite t n (field y.toBits.toBitVec - 1075) hn := hu
  have hq : x / y = .ofModel (.pack (.div .binary64 x.toModel.unpack y.toModel.unpack)) := rfl
  rw [hq, isFinite_pack, hu]
  rw [isFinite_iff] at hx
  cases ha : x.toModel.unpack
  case infinity => rw [ha] at hx; exact hx.elim
  case notANumber => rw [ha] at hx; exact hx.elim
  case zero => trivial
  case finite s m e h =>
    have ⟨hm', _, he⟩ := parts_of_unpack ha
    have hlm := log2_le_of_lt hm'
    have hln : 52 ≤ n.log2 := (Nat.le_log2 hn.ne').mpr hm
    rw [fits_div_iff (.inr (by unfold totalExponent; omega))]
    calc m * 2 ^ (e - (field y.toBits.toBitVec - 1075)).toNat
      _ ≤ (2 ^ 53 - 1) * 2 ^ 1023 :=
        Nat.mul_le_mul (by omega) (Nat.pow_le_pow_right (by decide) (by omega))
      _ < limit * 2 ^ 52 := by decide +kernel
      _ ≤ limit * (n * 2 ^ ((field y.toBits.toBitVec : Int) - 1075 - e).toNat) :=
        Nat.mul_le_mul_left _ (hm.trans (Nat.le_mul_of_pos_right _ (by positivity)))

-- Whether it is a number, an infinite one perhaps, of this sign.
def HasSign (s : Sign) : UnpackedFloat → Prop
  | .zero t => t = s
  | .infinity t => t = s
  | .finite t _ _ _ => t = s
  | .notANumber => False

theorem hasSign_round : HasSign s (roundWithAccuracy .binary64 s m e acc) := by
  rcases round_cases s m e acc with hr | ⟨_, _, _, hr, _⟩ <;> rw [hr] <;> rfl

theorem hasSign_mul {a b : UnpackedFloat} (ha : HasSign s a) (hb : HasSign t b)
    (hi : Fits a) (hj : Fits b) : HasSign (s * t) (.mul .binary64 a b) := by
  cases a <;> cases b
  case finite.finite =>
    cases ha
    cases hb
    exact hasSign_round
  case zero.zero => cases ha; cases hb; rfl
  case zero.finite => cases ha; cases hb; rfl
  case finite.zero => cases ha; cases hb; rfl
  all_goals first | exact hi.elim | exact hj.elim

theorem exists_hasSign {a : UnpackedFloat} (h : Fits a) : ∃ s, HasSign s a := by
  cases a
  case notANumber => exact h.elim
  all_goals exact ⟨_, rfl⟩

-- What is too large for a finite double is an infinity.
theorem pack_of_hasSign {a : UnpackedFloat} (h : HasSign s a) (hf : ¬Fits a) :
    Float.ofModel (.pack a) = .ofModel (.pack (.infinity s)) := by
  have hp : UnpackedFloat.pack .binary64 a = UnpackedFloat.pack .binary64 (.infinity s) := by
    cases a
    case notANumber => exact h.elim
    case zero => exact absurd trivial hf
    case infinity => cases h; rfl
    case finite => cases h; exact pack_of_not_fits hf
  unfold Float.Model.pack
  simp only [hp]

-- A product of finite doubles that is no infinity is finite.
theorem isFinite_mul (hx : x.isFinite) (hy : y.isFinite) (h : (x * y).isInf = false) :
    (x * y).isFinite := by
  have hp : x * y = .ofModel (.pack (.mul .binary64 x.toModel.unpack y.toModel.unpack)) := rfl
  rw [isFinite_iff] at hx hy
  have ⟨s, hs⟩ := exists_hasSign hx
  have ⟨t, ht⟩ := exists_hasSign hy
  rw [hp] at h ⊢
  rw [isFinite_pack]
  by_contra hf
  rw [pack_of_hasSign (hasSign_mul hs ht hx hy) hf] at h
  revert h
  cases s <;> cases t <;> decide +kernel

-- Doubles that are `2 ^ k` or more, up to the sign.
def Reaches (k : Nat) (x : Float) : Prop := 1023 + k ≤ field x.toBits.toBitVec ∧ x.isFinite

theorem reaches_round {k : Nat} (hl : 52 ≤ m.log2) (ht : k + 1 ≤ totalExponent m e)
    (hf : Fits (roundWithAccuracy .binary64 s m e acc)) :
    Reaches k (.ofModel (.pack (roundWithAccuracy .binary64 s m e acc))) := by
  refine ⟨?_, isFinite_pack.mpr hf⟩
  have ⟨m', e', h', hr, hm, he⟩ := round_normal s acc hl (by omega : -1021 ≤ totalExponent m e)
  rw [hr] at hf ⊢
  change 1023 + k ≤ field (UnpackedFloat.pack .binary64 _)
  rw [field_pack hf, if_pos hm]
  omega

theorem log2_shiftLeft (hn : n ≠ 0) (k : Nat) : (n <<< k).log2 = n.log2 + k := by
  induction k
  case zero => rfl
  case succ k hi =>
    have hk : n <<< k ≠ 0 := mt Nat.shiftLeft_eq_zero_iff.mp hn
    rw [Nat.shiftLeft_succ, Nat.log2_two_mul hk, hi, Nat.add_assoc]

end Arithmetic

section Conversion

variable {n : Nat}

theorem normalize_natCast (hn : 0 < n) : UnpackedFloat.normalize .binary64 n 0 .positive =
    roundWithAccuracy .binary64 .positive (n <<< (52 - n.log2)) (-(52 - n.log2 : Nat)) .exact := by
  have hk : (0 - max (totalExponent n 0 - 53) (-1074)).toNat = 52 - n.log2 := by
    unfold totalExponent
    omega
  rw [UnpackedFloat.normalize, Int.compare_eq_gt.mpr (by omega)]
  change (UnpackedFloat.round .binary64 .positive n 0) = _
  rw [← Int.zero_sub, ← hk]
  rfl

theorem totalExponent_shiftLeft (hn : n ≠ 0) (k : Nat) (e : Int) :
    totalExponent (n <<< k) (e - k) = totalExponent n e := by
  unfold totalExponent
  rw [log2_shiftLeft hn]
  omega

-- A whole number of 64 bits needs no great exponent.
theorem ofNat_cases (hn : n < 2 ^ 64) : UnpackedFloat.ofNat .binary64 n = .zero .positive ∨
    ∃ m e h, UnpackedFloat.ofNat .binary64 n = .finite .positive m e h ∧ e ≤ 12 := by
  by_cases hz : n = 0
  case pos => exact .inl (hz ▸ rfl)
  case neg =>
    have he : UnpackedFloat.ofNat .binary64 n = _ := normalize_natCast (Nat.pos_of_ne_zero hz)
    have ht := totalExponent_shiftLeft hz (52 - n.log2) 0
    rw [Int.zero_sub] at ht
    have hl : n.log2 < 64 := (Nat.log2_lt hz).mpr hn
    rw [he]
    refine (round_cases ..).imp_right ?_
    rintro ⟨m, e, h, hr, hm⟩
    refine ⟨m, e, h, hr, ?_⟩
    rw [ht, totalExponent] at hm
    omega

theorem isFinite_toFloat (n : UInt64) : n.toFloat.isFinite := by
  refine isFinite_pack.mpr ?_
  change Fits (UnpackedFloat.ofNat .binary64 n.toNat)
  rcases ofNat_cases n.toNat_lt with hu | ⟨m, e, h, hu, he⟩
  · rw [hu]
    trivial
  · rw [hu]
    unfold Fits
    omega

theorem exponent_toFloat {n : UInt64} {s : Sign} {m : Nat} {e : Int} {h : 0 < m}
    (hu : n.toFloat.toModel.unpack = .finite s m e h) : e ≤ 12 := by
  have ⟨_, _, he⟩ := parts_of_unpack hu
  have hb : n.toFloat.toModel.toBits.toBitVec =
    UnpackedFloat.pack .binary64 (UnpackedFloat.ofNat .binary64 n.toNat) := rfl
  rw [hb] at he
  rcases ofNat_cases n.toNat_lt with hz | ⟨m', e', h', hr, hl⟩
  · rw [hz] at he
    have hz : field (UnpackedFloat.pack .binary64 (.zero .positive)) = 0 := by decide
    omega
  · have hf : Fits (.finite .positive m' e' h') := by
      unfold Fits
      omega
    rw [hr, field_pack hf] at he
    split at he <;> omega

end Conversion

section Decimals

variable {m : Nat} {e : Int}

-- Whether the number is one that is rounded to a finite double.
def InRange (m : Nat) (e : Int) : Prop := m * 10 ^ e.toNat < limit * 10 ^ (-e).toNat

theorem two_pow_le (k : Nat) : 2 ^ k ≤ 10 ^ k := Nat.pow_le_pow_left (by decide) k

theorem ten_pow_le {k l : Nat} (h : k ≤ l) : 10 ^ k ≤ 10 ^ l :=
  Nat.pow_le_pow_right (by decide) h

theorem not_inRange_of_lt (hm : 0 < m) (he : 2048 < e) : ¬InRange m e := by
  have hz : (-e).toNat = 0 := by omega
  refine Nat.not_lt.mpr ?_
  calc limit * 10 ^ (-e).toNat
    _ = limit := by rw [hz, Nat.pow_zero, Nat.mul_one]
    _ ≤ 10 ^ 1024 := limit_le.trans (two_pow_le 1024)
    _ ≤ 10 ^ e.toNat := ten_pow_le (by omega)
    _ ≤ m * 10 ^ e.toNat := Nat.le_mul_of_pos_left _ hm

theorem inRange_of_lt (he : e < -(2048 + m.log2)) : InRange m e := by
  have hz : e.toNat = 0 := by omega
  calc m * 10 ^ e.toNat
    _ = m := by rw [hz, Nat.pow_zero, Nat.mul_one]
    _ < 2 ^ (m.log2 + 1) := Nat.lt_log2_self
    _ ≤ 10 ^ (m.log2 + 1) := two_pow_le _
    _ ≤ 10 ^ (-e).toNat := ten_pow_le (by omega)
    _ ≤ limit * 10 ^ (-e).toNat := Nat.le_mul_of_pos_left _ (by decide +kernel)

theorem fits_mul_natCast {n : Nat} {hm : 0 < m <<< 53} {hn : 0 < n} :
    Fits (.mul .binary64 (.finite .positive (m <<< 53) (-53) hm) (.finite .positive n 0 hn)) ↔
      m * n < limit := by
  have hr : UnpackedFloat.mul .binary64 (.finite .positive (m <<< 53) (-53) hm)
      (.finite .positive n 0 hn) =
        roundWithAccuracy .binary64 .positive (m <<< 53 * n) (-53) .exact := rfl
  have hd : (-53 : Int).toNat = 0 ∧ (- -53 : Int).toNat = 53 := by decide
  rw [hr, fits_round_iff_lt Nat.one_pos (leads_exact _) (by decide), hd.left, hd.right,
    Nat.shiftLeft_eq, Nat.pow_zero, Nat.mul_one, Nat.one_mul, Nat.mul_right_comm]
  exact Nat.mul_lt_mul_right (by positivity)

theorem fits_div_natCast {n : Nat} {hm : 0 < m} {hn : 0 < n} :
    Fits (.div .binary64 (.finite .positive m 0 hm) (.finite .positive n 0 hn)) ↔
      m < limit * n := by
  rw [fits_div_iff (.inl (by decide)), Int.sub_zero, Int.toNat_zero, Nat.pow_zero, Nat.mul_one,
    Nat.mul_one]

-- Up to the limit a number that is written in decimal is rounded to a finite double.
theorem fits_ofScientific : Fits (UnpackedFloat.ofScientific .binary64 m e) ↔ InRange m e := by
  unfold UnpackedFloat.ofScientific
  split
  case isTrue hm =>
    refine iff_of_true trivial ?_
    rw [InRange, hm, Nat.zero_mul]
    exact Nat.mul_pos (by decide +kernel) (by positivity)
  split
  case isTrue hm he => exact iff_of_false id (not_inRange_of_lt (Nat.pos_of_ne_zero hm) he)
  split
  case isTrue he => exact iff_of_true trivial (inRange_of_lt he)
  split
  case isTrue he =>
    have hz : (-e).toNat = 0 := by omega
    rw [InRange, hz, Nat.pow_zero, Nat.mul_one]
    exact fits_mul_natCast
  case isFalse he =>
    have hz : e.toNat = 0 := by omega
    rw [InRange, hz, Nat.pow_zero, Nat.mul_one]
    exact fits_div_natCast

theorem hasSign_ofScientific : HasSign .positive (.ofScientific .binary64 m e) := by
  unfold UnpackedFloat.ofScientific
  repeat' split
  case isTrue => rfl
  case isTrue => rfl
  case isTrue => rfl
  case isTrue => exact hasSign_round
  case isFalse => exact hasSign_round

theorem isFinite_toFloat_mul (n : UInt64) {y : Float} (hy : AtLeastOne y)
    (hf : field y.toBits.toBitVec ≤ 1100) : (n.toFloat * y).isFinite := by
  have ⟨hl, _⟩ := hy
  have ⟨t, k, hk, hu, hm⟩ := exists_unpack (b := y.toBits.toBitVec) (by omega) (by omega)
  have hu : y.toModel.unpack = .finite t k (field y.toBits.toBitVec - 1075) hk := hu
  have ⟨hk', _, _⟩ := parts_of_unpack hu
  have hp : n.toFloat * y =
    .ofModel (.pack (.mul .binary64 n.toFloat.toModel.unpack y.toModel.unpack)) := rfl
  have hx := isFinite_iff.mp (isFinite_toFloat n)
  rw [hp, isFinite_pack, hu]
  cases ha : n.toFloat.toModel.unpack
  case infinity => rw [ha] at hx; exact hx.elim
  case notANumber => rw [ha] at hx; exact hx.elim
  case zero => trivial
  case finite s m e h =>
    have he := exponent_toFloat ha
    have ⟨hm, _, _⟩ := parts_of_unpack ha
    have hl : (m * k).log2 < 106 := by
      rw [Nat.log2_lt (Nat.mul_pos h hk).ne']
      exact (Nat.mul_lt_mul_of_lt_of_lt hm hk').trans_le (by decide)
    have hr : UnpackedFloat.mul .binary64 (.finite s m e h)
        (.finite t k (field y.toBits.toBitVec - 1075) hk) = roundWithAccuracy .binary64 (s * t)
          (m * k) (e + (field y.toBits.toBitVec - 1075)) .exact := rfl
    rw [hr]
    exact fits_of_small (by omega) (by unfold totalExponent; omega)

theorem powersOfTen_bounds : ∀ k : Fin 23, AtLeastOne Float.exactlyRepresentablePowersOfTen[k] ∧
    field Float.exactlyRepresentablePowersOfTen[k].toBits.toBitVec ≤ 1100 := by
  decide +kernel

theorem inRange_of_le (hm : m < 2 ^ 53) (he : e ≤ 22) : InRange m e := by
  calc m * 10 ^ e.toNat
    _ ≤ m * 10 ^ 22 := Nat.mul_le_mul_left _ (ten_pow_le (by omega))
    _ < 2 ^ 53 * 10 ^ 22 := Nat.mul_lt_mul_of_pos_right hm (by decide)
    _ ≤ limit := by decide +kernel
    _ ≤ limit * 10 ^ (-e).toNat := Nat.le_mul_of_pos_right _ (by positivity)

theorem isFinite_ofScientific (m : Nat) (s : Bool) (k : Nat) :
    (Float.ofScientific m s k).isFinite ↔ InRange m (if s then -k else k) := by
  unfold Float.ofScientific
  split
  case isTrue h =>
    have ⟨ho, hf⟩ := powersOfTen_bounds ⟨k, Nat.lt_succ_of_le h.right⟩
    refine iff_of_true ?_ (inRange_of_le h.left (by split <;> omega))
    split
    case isTrue => exact isFinite_div (isFinite_toFloat _) ho
    case isFalse => exact isFinite_toFloat_mul _ ho hf
  case isFalse h =>
    refine isFinite_pack.trans (fits_ofScientific.trans ?_)
    rw [Int.negOfNat_eq]
    rfl

-- Beyond the limit there is nothing but the infinity.
theorem ofScientific_of_not_inRange {s : Bool} {k : Nat} (h : ¬InRange m (if s then -k else k)) :
    Float.ofScientific m s k = 1 / 0 := by
  have hi : (1 / 0 : Float) = .ofModel (.pack (.infinity .positive)) := by decide +kernel
  have hf := mt (isFinite_ofScientific m s k).mp h
  unfold Float.ofScientific at hf ⊢
  split
  case isTrue hm => exact absurd (inRange_of_le hm.left (by split <;> omega)) h
  case isFalse hm =>
    rw [dif_neg hm] at hf
    rw [hi]
    exact pack_of_hasSign hasSign_ofScientific (mt isFinite_pack.mpr hf)

open Decimal (nearest)

theorem nearest_eq (m : Nat) (e : Int) :
    ∃ s k, nearest m e = Float.ofScientific m s k ∧ (if s then -(k : Int) else k) = e := by
  unfold nearest
  split
  case isTrue he => exact ⟨true, e.natAbs, rfl, (if_pos rfl).trans (by omega)⟩
  case isFalse he => exact ⟨false, e.natAbs, rfl, (if_neg Bool.false_ne_true).trans (by omega)⟩

theorem isFinite_nearest (m : Nat) (e : Int) : (nearest m e).isFinite ↔ InRange m e := by
  have ⟨s, k, hn, he⟩ := nearest_eq m e
  rw [hn, isFinite_ofScientific, he]

theorem nearest_of_not_inRange (h : ¬InRange m e) : nearest m e = 1 / 0 := by
  have ⟨s, k, hn, he⟩ := nearest_eq m e
  exact hn.trans (ofScientific_of_not_inRange (he ▸ h))

-- The powers of ten that are finite are one or more.
theorem atLeastOne_pow {k : Nat} (h : k ≤ 308) : AtLeastOne (Float.ofScientific 1 false k) := by
  by_cases hk : k ≤ 22
  case pos => exact (by decide +kernel : ∀ k ≤ 22, AtLeastOne (Float.ofScientific 1 false k)) k hk
  case neg =>
    have hf : Fits (UnpackedFloat.ofScientific .binary64 1 k) := by
      refine fits_ofScientific.mpr ?_
      calc 1 * 10 ^ (k : Int).toNat
        _ = 10 ^ k := Nat.one_mul _
        _ ≤ 10 ^ 308 := ten_pow_le h
        _ < limit := by decide +kernel
        _ ≤ limit * 10 ^ (-(k : Int)).toNat := Nat.le_mul_of_pos_right _ (by positivity)
    have hr : UnpackedFloat.ofScientific .binary64 1 k =
        roundWithAccuracy .binary64 .positive (1 <<< 53 * 10 ^ k) (-53) .exact := by
      have hl : ¬(k : Int) > 2 ^ Format.binary64.exponentBits := by
        change ¬2048 < (k : Int)
        omega
      have hs : ¬(k : Int) < -(2 ^ Format.binary64.exponentBits + (1 : Nat).log2) := by
        change ¬(k : Int) < -2048
        omega
      rw [UnpackedFloat.ofScientific, dif_neg Nat.one_ne_zero, if_neg hl, if_neg hs,
        if_pos (Int.natCast_nonneg k)]
      rfl
    rw [Float.ofScientific, dif_neg (fun h => hk h.right)]
    change AtLeastOne (.ofModel (.pack (.ofScientific .binary64 1 k)))
    rw [hr] at hf ⊢
    have hl : 53 ≤ (1 <<< 53 * 10 ^ k).log2 :=
      (Nat.le_log2 (Nat.mul_pos (by decide) (by positivity)).ne').mpr
        (Nat.le_mul_of_pos_right _ (by positivity))
    exact reaches_round (k := 0) (by omega) (by unfold totalExponent; omega) hf

end Decimals

end AnomalyDetection.Rounding
