import Mathlib

namespace AnomalyDetection.Rounding

open Float.Model (Format UnpackedFloat totalExponent)
open Float.Model.UnpackedFloat (Accuracy ExtendedMantissa Sign roundWithAccuracy unpackExponent
  unpackExponent_packComponents)

-- Half of a last place above the greatest double: the least number that is rounded to an infinity.
-- Rounding leaves a mantissa of at most 53 bits, and a double is finite as long as the exponent
-- beside it is at most 971. So what is rounded to a finite double is, up to its sign, just what
-- lies below the middle between the greatest one and the power of two behind it.
@[irreducible]
def limit : Nat := 2 ^ 1024 - 2 ^ 970

theorem le_limit : 2 ^ 1023 ≤ limit := by decide +kernel

theorem limit_le : limit ≤ 2 ^ 1024 := by decide +kernel

theorem two_mul_limit : 2 * limit = (2 ^ 54 - 1) * 2 ^ 971 := by decide +kernel

-- Whether there is a finite double of this mantissa and exponent.
def Fits : UnpackedFloat → Prop
  | .zero _ => True
  | .finite _ _ e _ => e ≤ 971
  | .infinity _ | .notANumber => False

theorem mul_pow_add (n p q : Nat) : n * 2 ^ (p + q) = 2 ^ p * (n * 2 ^ q) := by
  rw [Nat.pow_add, Nat.mul_left_comm]

section Shift

variable {em : ExtendedMantissa}

theorem mantissa_shiftRight (em : ExtendedMantissa) (k : Nat) :
    (em >>> k).mantissa = em.mantissa / 2 ^ k := by
  induction k
  case zero => exact (Nat.div_one _).symm
  case succ k hi =>
    have hs : (em >>> (k + 1)).mantissa = (em >>> k).mantissa / 2 := rfl
    rw [hs, hi, Nat.div_div_eq_div_mul, Nat.pow_succ]

-- What a mantissa and the bit behind it say of a fraction.
structure Leads (num den : Nat) (em : ExtendedMantissa) : Prop where
  mantissa : em.mantissa = num / den
  roundBit : em.roundBit ↔ 2 * num / den % 2 = 1

variable {num den : Nat}

theorem odd_iff (h : 0 < den) : 2 * num / den % 2 = 1 ↔ den ≤ 2 * (num % den) := by
  have hn : 2 * num = den * (2 * (num / den)) + 2 * (num % den) := by
    have := Nat.div_add_mod num den
    linarith
  have hl : num % den < den := Nat.mod_lt num h
  rw [hn, Nat.mul_add_div h]
  rcases Nat.lt_or_ge (2 * (num % den)) den with hr | hr
  · rw [Nat.div_eq_of_lt hr]
    omega
  · have hq : 2 * (num % den) / den = 1 := Nat.div_eq_of_lt_le (by omega) (by omega)
    omega

theorem Leads.shiftRightOne (h : Leads num den em) : Leads num (2 * den) em.shiftRightOne where
  mantissa := by
    have hm : em.shiftRightOne.mantissa = em.mantissa / 2 := rfl
    rw [hm, h.mantissa, Nat.div_div_eq_div_mul, Nat.mul_comm]
  roundBit := by
    have hb : em.shiftRightOne.roundBit = (em.mantissa % 2 != 0) := rfl
    rw [hb, h.mantissa, Nat.mul_div_mul_left _ _ (by decide : 0 < 2), bne_iff_ne]
    omega

theorem Leads.shiftRight (h : Leads num den em) (k : Nat) :
    Leads num (2 ^ k * den) (em >>> k) := by
  induction k
  case zero => rw [Nat.pow_zero, Nat.one_mul]; exact h
  case succ k hi =>
    rw [Nat.pow_succ, Nat.mul_comm (2 ^ k), Nat.mul_assoc]
    exact hi.shiftRightOne

theorem mantissa_ofMantissaAndAccuracy (m : Nat) (acc : Accuracy) :
    (ExtendedMantissa.ofMantissaAndAccuracy m acc).mantissa = m := by
  rcases acc with _ | _ | _ | _ <;> rfl

theorem leads_exact (m : Nat) : Leads m 1 (.ofMantissaAndAccuracy m .exact) where
  mantissa := (Nat.div_one m).symm
  roundBit := by
    have hb : (ExtendedMantissa.ofMantissaAndAccuracy m .exact).roundBit = false := rfl
    rw [hb, Nat.div_one]
    simp

theorem leads_fraction (num : Nat) (h : 0 < den) :
    Leads num den (.ofMantissaAndAccuracy (num / den)
      (UnpackedFloat.accuracyOfFraction (num % den) den)) where
  mantissa := mantissa_ofMantissaAndAccuracy _ _
  roundBit := by
    rw [odd_iff h, UnpackedFloat.accuracyOfFraction]
    split
    case isTrue hz =>
      rw [hz]
      exact iff_of_false Bool.false_ne_true (Nat.not_le.mpr h)
    case isFalse =>
      rcases hc : compare (2 * (num % den)) den
      case lt => exact iff_of_false Bool.false_ne_true (Nat.not_le.mpr (Nat.compare_eq_lt.mp hc))
      case eq => exact iff_of_true rfl (Nat.compare_eq_eq.mp hc).ge
      case gt => exact iff_of_true rfl (Nat.compare_eq_gt.mp hc).le

-- A mantissa is rounded to itself or to the next one, and an odd one to the next one if half of a
-- last place or more is behind it.
theorem roundedMantissa_bounds (em : ExtendedMantissa) :
    em.mantissa ≤ em.roundedMantissa ∧ em.roundedMantissa ≤ em.mantissa + 1 := by
  rcases em with ⟨m, _ | _, _ | _⟩
  all_goals simp only [ExtendedMantissa.roundedMantissa, ExtendedMantissa.accuracy,
    Accuracy.roundToNearestEven]
  all_goals omega

theorem roundedMantissa_of_odd (h : em.mantissa % 2 = 1) :
    em.roundedMantissa = em.mantissa + em.roundBit.toNat := by
  rcases em with ⟨m, _ | _, _ | _⟩
  all_goals simp only [ExtendedMantissa.roundedMantissa, ExtendedMantissa.accuracy,
    Accuracy.roundToNearestEven, Bool.toNat_true, Bool.toNat_false] at h ⊢
  all_goals omega

-- With 53 bits, a fraction is rounded to a power of two from half of a last place below it on.
theorem Leads.carry_iff (h : Leads num den em) (hd : 0 < den) (hm : em.mantissa < 2 ^ 53) :
    2 ^ 53 ≤ em.roundedMantissa ↔ (2 ^ 54 - 1) * den ≤ 2 * num := by
  have hb := roundedMantissa_bounds em
  have hn := Nat.div_add_mod num den
  have hl : num % den < den := Nat.mod_lt num hd
  rw [← h.mantissa] at hn
  by_cases ho : em.mantissa = 2 ^ 53 - 1
  case pos =>
    have hr := roundedMantissa_of_odd (by omega : em.mantissa % 2 = 1)
    have hi := h.roundBit.trans (odd_iff hd)
    rw [ho] at hn
    cases hc : em.roundBit
    case false =>
      have hl : ¬den ≤ 2 * (num % den) := fun hl => by simp [hc] at hi; omega
      rw [hr, ho, hc, Bool.toNat_false]
      omega
    case true =>
      have hl : den ≤ 2 * (num % den) := hi.mp hc
      rw [hr, ho, hc, Bool.toNat_true]
      omega
  case neg =>
    have hm : den * em.mantissa ≤ den * (2 ^ 53 - 2) := Nat.mul_le_mul_left den (by omega)
    omega

end Shift

section Round

variable {s : Sign} {m : Nat} {e : Int} {acc : Accuracy}

-- How many bits of a mantissa there is no room for.
def excess (m : Nat) (e : Int) : Nat := (max (totalExponent m e - 53) (-1074) - e).toNat

-- The mantissa that is left, rounded.
def rounded (m : Nat) (e : Int) (acc : Accuracy) : Nat :=
  (ExtendedMantissa.ofMantissaAndAccuracy m acc >>> excess m e).roundedMantissa

-- What is rounded may need one more bit, so the mantissa is shifted a second time.
def carried (m : Nat) (e : Int) (acc : Accuracy) : Nat :=
  (ExtendedMantissa.ofMantissaAndAccuracy (rounded m e acc) .exact >>>
    excess (rounded m e acc) (e + excess m e)).mantissa

theorem round_eq (s : Sign) (m : Nat) (e : Int) (acc : Accuracy) :
    roundWithAccuracy .binary64 s m e acc =
      if h : carried m e acc = 0 then .zero s
      else .finite s (carried m e acc)
        (e + excess m e + excess (rounded m e acc) (e + excess m e)) (Nat.pos_of_ne_zero h) := rfl

theorem carried_eq (m : Nat) (e : Int) (acc : Accuracy) : carried m e acc =
    rounded m e acc / 2 ^ excess (rounded m e acc) (e + excess m e) := by
  rw [carried, mantissa_shiftRight, mantissa_ofMantissaAndAccuracy]

theorem fits_iff_excess : Fits (roundWithAccuracy .binary64 s m e acc) ↔
    rounded m e acc / 2 ^ excess (rounded m e acc) (e + excess m e) = 0 ∨
      e + excess m e + excess (rounded m e acc) (e + excess m e) ≤ 971 := by
  rw [← carried_eq, round_eq]
  split
  case isTrue h => exact iff_of_true trivial (.inl h)
  case isFalse h => exact (or_iff_right h).symm

theorem log2_le_of_lt {n : Nat} (h : n < 2 ^ 53) : n.log2 ≤ 52 := by
  by_cases hn : n = 0
  case pos => rw [hn]; decide
  case neg => exact Nat.le_of_lt_succ ((Nat.log2_lt hn).mpr h)

-- There is room for 53 bits, and not for a bit behind them.
theorem excess_of_lt {n : Nat} (h : n < 2 ^ 53) (he : -1074 ≤ e) : excess n e = 0 := by
  have hl := log2_le_of_lt h
  unfold excess totalExponent
  omega

theorem excess_carry (he : -1074 ≤ e) : excess (2 ^ 53) e = 1 := by
  unfold excess totalExponent
  rw [Nat.log2_two_pow]
  omega

theorem excess_bounds (m : Nat) (e : Int) : -1074 ≤ e + excess m e ∧ m.log2 ≤ 52 + excess m e := by
  unfold excess totalExponent
  omega

theorem div_excess_lt (m : Nat) (e : Int) : m / 2 ^ excess m e < 2 ^ 53 := by
  rw [Nat.div_lt_iff_lt_mul (by positivity), ← Nat.pow_add]
  have hl := (excess_bounds m e).right
  exact Nat.lt_log2_self.trans_le (Nat.pow_le_pow_right (by decide) (by omega))

theorem rounded_bounds (m : Nat) (e : Int) (acc : Accuracy) :
    m / 2 ^ excess m e ≤ rounded m e acc ∧ rounded m e acc ≤ m / 2 ^ excess m e + 1 := by
  have hb := roundedMantissa_bounds
    (ExtendedMantissa.ofMantissaAndAccuracy m acc >>> excess m e)
  rw [mantissa_shiftRight, mantissa_ofMantissaAndAccuracy] at hb
  exact hb

theorem excess_rounded (m : Nat) (e : Int) (acc : Accuracy) :
    excess (rounded m e acc) (e + excess m e) = if rounded m e acc < 2 ^ 53 then 0 else 1 := by
  have he := (excess_bounds m e).left
  have hr := (rounded_bounds m e acc).right
  have hl := div_excess_lt m e
  split
  case isTrue h => exact excess_of_lt h he
  case isFalse h =>
    have hc : rounded m e acc = 2 ^ 53 := by omega
    rw [hc, excess_carry he]

theorem excess_rounded_le (m : Nat) (e : Int) (acc : Accuracy) :
    excess (rounded m e acc) (e + excess m e) ≤ 1 := by
  rw [excess_rounded]
  split <;> decide

theorem fits_round_iff : Fits (roundWithAccuracy .binary64 s m e acc) ↔
    rounded m e acc = 0 ∨ rounded m e acc < 2 ^ 53 ∧ e + excess m e ≤ 971 ∨
      e + excess m e ≤ 970 := by
  rw [fits_iff_excess, excess_rounded]
  split <;> omega

theorem fits_of_small (he : e ≤ 971) (ht : totalExponent m e ≤ 1023) :
    Fits (roundWithAccuracy .binary64 s m e acc) := by
  rw [fits_round_iff]
  by_cases h : e + excess m e ≤ 970
  case pos => exact .inr (.inr h)
  case neg =>
    -- Nothing is shifted out, and there is a bit to spare.
    have hk : e = 971 ∧ excess m e = 0 := by
      unfold excess at h ⊢
      omega
    have hl : m < 2 ^ 52 := by
      refine Nat.lt_log2_self.trans_le (Nat.pow_le_pow_right (by decide) ?_)
      unfold totalExponent at ht
      omega
    have hr := (rounded_bounds m e acc).right
    rw [hk.right, Nat.pow_zero, Nat.div_one] at hr
    exact .inr (.inl (by omega))

theorem not_fits_of_large (he : e ≤ 971) (ht : 1025 ≤ totalExponent m e) :
    ¬Fits (roundWithAccuracy .binary64 s m e acc) := by
  have hk : e + excess m e = totalExponent m e - 53 := by
    unfold excess
    omega
  have hn : 2 ^ excess m e ≤ m := by
    unfold totalExponent at hk ht
    refine (Nat.pow_le_pow_right (by decide) ?_).trans (Nat.log2_self_le (n := m) ?_)
    · omega
    · rintro rfl
      rw [Nat.log2_zero] at ht
      omega
  have hr := (rounded_bounds m e acc).left
  have hp := Nat.div_pos hn (by positivity)
  rw [fits_round_iff]
  omega

variable {num den : Nat}

theorem lt_limit_of_small (hd : 0 < den) (ht : totalExponent (num / den) e ≤ 1023) :
    num * 2 ^ e.toNat < limit * (den * 2 ^ (-e).toNat) := by
  generalize hm : num / den = m at ht
  have hn : num < 2 ^ (m.log2 + 1) * den := (Nat.div_lt_iff_lt_mul hd).mp (hm ▸ Nat.lt_log2_self)
  have hl : m.log2 + 1 + e.toNat ≤ 1023 + (-e).toNat := by
    unfold totalExponent at ht
    omega
  calc num * 2 ^ e.toNat
    _ < 2 ^ (m.log2 + 1) * den * 2 ^ e.toNat := Nat.mul_lt_mul_of_pos_right hn (by positivity)
    _ = den * 2 ^ (m.log2 + 1 + e.toNat) := by rw [mul_pow_add, Nat.mul_assoc]
    _ ≤ den * 2 ^ (1023 + (-e).toNat) :=
      Nat.mul_le_mul_left _ (Nat.pow_le_pow_right (by decide) hl)
    _ = 2 ^ 1023 * (den * 2 ^ (-e).toNat) := mul_pow_add ..
    _ ≤ limit * (den * 2 ^ (-e).toNat) := Nat.mul_le_mul_right _ le_limit

theorem limit_le_of_large (hd : 0 < den) (ht : 1025 ≤ totalExponent (num / den) e)
    (he : e ≤ 971) : limit * (den * 2 ^ (-e).toNat) ≤ num * 2 ^ e.toNat := by
  generalize hm : num / den = m at ht
  have hz : m ≠ 0 := by
    rintro rfl
    rw [totalExponent, Nat.log2_zero] at ht
    omega
  have hn : 2 ^ m.log2 * den ≤ num :=
    (Nat.le_div_iff_mul_le hd).mp ((Nat.log2_self_le hz).trans_eq hm.symm)
  have hl : 1024 + (-e).toNat ≤ m.log2 + e.toNat := by
    unfold totalExponent at ht
    omega
  calc limit * (den * 2 ^ (-e).toNat)
    _ ≤ 2 ^ 1024 * (den * 2 ^ (-e).toNat) := Nat.mul_le_mul_right _ limit_le
    _ = den * 2 ^ (1024 + (-e).toNat) := (mul_pow_add ..).symm
    _ ≤ den * 2 ^ (m.log2 + e.toNat) := Nat.mul_le_mul_left _ (Nat.pow_le_pow_right (by decide) hl)
    _ = 2 ^ m.log2 * den * 2 ^ e.toNat := by rw [mul_pow_add, Nat.mul_assoc]
    _ ≤ num * 2 ^ e.toNat := Nat.mul_le_mul_right _ hn

-- With as many bits as the limit has, it is the rounding that decides.
theorem fits_round_at_limit (hd : 0 < den) (h : Leads num den (.ofMantissaAndAccuracy m acc))
    (he : e ≤ 971) (ht : totalExponent m e = 1024) :
    Fits (roundWithAccuracy .binary64 s m e acc) ↔
      num * 2 ^ e.toNat < limit * (den * 2 ^ (-e).toNat) := by
  have hk : e + excess m e = 971 := by
    unfold excess
    omega
  have hf : Fits (roundWithAccuracy .binary64 s m e acc) ↔ ¬2 ^ 53 ≤ rounded m e acc := by
    rw [fits_round_iff]
    omega
  have hm : (ExtendedMantissa.ofMantissaAndAccuracy m acc >>> excess m e).mantissa < 2 ^ 53 := by
    rw [mantissa_shiftRight, mantissa_ofMantissaAndAccuracy]
    exact div_excess_lt m e
  have hc := (h.shiftRight (excess m e)).carry_iff (Nat.mul_pos (by positivity) hd) hm
  have hl : excess m e + e.toNat = 971 + (-e).toNat := by omega
  have hp : (2 ^ 54 - 1) * (2 ^ excess m e * den) * 2 ^ e.toNat =
      2 * (limit * (den * 2 ^ (-e).toNat)) := by
    rw [Nat.mul_assoc, Nat.mul_assoc, ← mul_pow_add, hl, mul_pow_add, ← Nat.mul_assoc,
      ← two_mul_limit, Nat.mul_assoc]
  rw [hf, ← Nat.not_le, not_iff_not]
  refine hc.trans ?_
  rw [← Nat.mul_le_mul_right_iff (by positivity : 0 < 2 ^ e.toNat), hp, Nat.mul_assoc,
    Nat.mul_le_mul_left_iff (by decide : 0 < 2)]

-- What is rounded stays finite up to the middle behind the greatest double.
theorem fits_round_iff_lt (hd : 0 < den) (h : Leads num den (.ofMantissaAndAccuracy m acc))
    (he : e ≤ 971) : Fits (roundWithAccuracy .binary64 s m e acc) ↔
      num * 2 ^ e.toNat < limit * (den * 2 ^ (-e).toNat) := by
  have hm : m = num / den := (mantissa_ofMantissaAndAccuracy m acc).symm.trans h.mantissa
  rcases Int.lt_trichotomy (totalExponent m e) 1024 with ht | ht | ht
  · exact iff_of_true (fits_of_small he (by omega)) (lt_limit_of_small hd (hm ▸ by omega))
  · exact fits_round_at_limit hd h he ht
  · refine iff_of_false (not_fits_of_large he (by omega)) (Nat.not_lt.mpr ?_)
    exact limit_le_of_large hd (hm ▸ by omega) he

-- What is rounded is zero, or it has an exponent that leaves room for its mantissa.
theorem round_cases (s : Sign) (m : Nat) (e : Int) (acc : Accuracy) :
    roundWithAccuracy .binary64 s m e acc = .zero s ∨
    ∃ m' e' h, roundWithAccuracy .binary64 s m e acc = .finite s m' e' h ∧
      e' ≤ max e (max (totalExponent m e - 53) (-1074)) + 1 := by
  rw [round_eq]
  split
  case isTrue => exact .inl rfl
  case isFalse h =>
    refine .inr ⟨_, _, Nat.pos_of_ne_zero h, rfl, ?_⟩
    have hk := excess_rounded_le m e acc
    have he : e + excess m e = max e (max (totalExponent m e - 53) (-1074)) := by
      unfold excess
      omega
    omega

-- With enough bits it is a mantissa of 53 bits.
theorem round_normal (s : Sign) (acc : Accuracy) (hl : 52 ≤ m.log2)
    (ht : -1021 ≤ totalExponent m e) : ∃ m' e' h,
    roundWithAccuracy .binary64 s m e acc = .finite s m' e' h ∧ m'.log2 = 52 ∧
      totalExponent m e - 53 ≤ e' := by
  have he : (excess m e : Int) ≤ m.log2 - 52 ∧ totalExponent m e - 53 ≤ e + excess m e := by
    unfold excess totalExponent at *
    omega
  have hz : m ≠ 0 := by
    rintro rfl
    rw [Nat.log2_zero] at hl
    omega
  have hn : 2 ^ 52 ≤ m / 2 ^ excess m e := by
    rw [Nat.le_div_iff_mul_le (by positivity), ← Nat.pow_add]
    exact (Nat.pow_le_pow_right (by decide) (by omega)).trans (Nat.log2_self_le hz)
  have hr := rounded_bounds m e acc
  have hd := div_excess_lt m e
  have hx := excess_rounded m e acc
  have hc : 2 ^ 52 ≤ carried m e acc ∧ carried m e acc < 2 ^ 53 := by
    rw [carried_eq, hx]
    split <;> omega
  rw [round_eq, dif_neg (by omega)]
  refine ⟨_, _, by omega, rfl, ?_, by omega⟩
  exact (Nat.log2_eq_iff (by omega)).mpr hc

end Round

section Packing

variable {u : UnpackedFloat} {x y : Float} {b : BitVec 64} {s : Sign} {m : Nat} {e : Int}
  {h : 0 < m}

-- The bits of the exponent, as a number.
def field (b : BitVec 64) : Nat := (@unpackExponent .binary64 b).toNat

theorem unpackExponent_eq_iff {f : BitVec 11} {n : Nat} (hf : f.toNat = n) :
    @unpackExponent .binary64 b = f ↔ field b = n :=
  hf ▸ BitVec.toNat_inj.symm

theorem bias_eq (e : Int) : (e + Format.binary64.exponentBias +
    Format.binary64.mantissaBitsWithoutImplicit).toNat = (e + 1075).toNat := by
  have hb : (Format.binary64.exponentBias : Int) = 1023 := rfl
  have hm : (Format.binary64.mantissaBitsWithoutImplicit : Int) = 52 := rfl
  rw [hb, hm]
  omega

theorem toNat_append_one (f : BitVec 52) : (1#1 ++ f).toNat = 2 ^ 52 + f.toNat := by
  rw [BitVec.toNat_append, ← Nat.shiftLeft_add_eq_or_of_lt f.isLt]
  rfl

-- All bits of the exponent are set in what is not finite, and in nothing else.
theorem isFinite_unpack (b : BitVec 64) :
    (UnpackedFloat.unpack .binary64 b).isFinite ↔ field b ≠ 2047 := by
  rw [ne_eq, ← unpackExponent_eq_iff (f := -1#11) (n := 2047) rfl, UnpackedFloat.unpack]
  split
  case isTrue h =>
    refine iff_of_false ?_ (not_not_intro h)
    split <;> exact Bool.false_ne_true
  case isFalse h =>
    refine iff_of_true ?_ h
    split
    · split <;> rfl
    · rfl

-- What a finite double that is not zero is made of. A mantissa has a bit more than are written, if
-- there are bits in the exponent.
theorem parts_of_unpack (hu : UnpackedFloat.unpack .binary64 b = .finite s m e h) :
    m < 2 ^ 53 ∧ field b < 2047 ∧ e = max (field b : Int) 1 - 1075 := by
  have hf : field b ≠ 2047 := (isFinite_unpack b).mp (by rw [hu]; rfl)
  have hl : field b < 2 ^ 11 := BitVec.isLt _
  rw [UnpackedFloat.unpack] at hu
  split at hu
  case isTrue => split at hu <;> cases hu
  case isFalse =>
    split at hu
    case isTrue hz =>
      have hz : field b = 0 := (unpackExponent_eq_iff (n := 0) rfl).mp hz
      split at hu <;> cases hu
      refine ⟨(BitVec.isLt _).trans (by decide), by omega, ?_⟩
      change (field b : Int) - 1075 + 1 = _
      omega
    case isFalse hz =>
      have hz : field b ≠ 0 := mt (unpackExponent_eq_iff (n := 0) rfl).mpr hz
      cases hu
      refine ⟨BitVec.isLt _, by omega, ?_⟩
      change (field b : Int) - 1075 = _
      omega

-- With bits in its exponent, a double is not zero.
theorem exists_unpack (hl : 1 ≤ field b) (hf : field b < 2047) : ∃ s m h,
    UnpackedFloat.unpack .binary64 b = .finite s m ((field b : Int) - 1075) h ∧ 2 ^ 52 ≤ m := by
  rw [UnpackedFloat.unpack, if_neg, if_neg]
  · exact ⟨_, _, _, rfl, (toNat_append_one _).symm ▸ Nat.le_add_right ..⟩
  · exact mt (unpackExponent_eq_iff (n := 0) rfl).mp (by omega)
  · exact mt (unpackExponent_eq_iff (n := 2047) rfl).mp (by omega)

theorem pack_of_not_fits (hf : ¬Fits (.finite s m e h)) :
    UnpackedFloat.pack .binary64 (.finite s m e h) = UnpackedFloat.packedInfinity .binary64 s := by
  unfold Fits at hf
  rw [UnpackedFloat.pack, bias_eq]
  exact if_pos (by change 2 ^ 11 ≤ _; omega)

-- A mantissa of 53 bits is written without the first one.
theorem field_pack (hf : Fits (.finite s m e h)) :
    field (UnpackedFloat.pack .binary64 (.finite s m e h)) =
      if m.log2 = 52 then (e + 1075).toNat else 0 := by
  unfold Fits at hf
  have hl : ¬2 ^ Format.binary64.exponentBits ≤ (e + 1075).toNat + 1 := by
    change ¬2 ^ 11 ≤ _
    omega
  have hm : m.log2 + 1 = Format.binary64.mantissaBits ↔ m.log2 = 52 := Nat.succ_inj
  rw [UnpackedFloat.pack, bias_eq, if_neg hl]
  simp only [hm]
  split
  · rw [field, unpackExponent_packComponents, BitVec.toNat_ofNat, Nat.mod_eq_of_lt]
    change _ < 2 ^ 11
    omega
  · rw [field, unpackExponent_packComponents]
    rfl

theorem field_packedInfinity (s : Sign) :
    field (UnpackedFloat.packedInfinity .binary64 s) = 2047 :=
  (unpackExponent_eq_iff rfl).mp unpackExponent_packComponents

theorem isFinite_pack : (Float.ofModel (.pack u)).isFinite ↔ Fits u := by
  refine (isFinite_unpack _).trans ?_
  cases u
  case infinity s => exact iff_of_false (not_not_intro (field_packedInfinity s)) id
  case notANumber =>
    refine iff_of_false (not_not_intro ?_) id
    exact (unpackExponent_eq_iff rfl).mp unpackExponent_packComponents
  case zero s =>
    have hz : field (UnpackedFloat.pack .binary64 (.zero s)) = 0 :=
      (unpackExponent_eq_iff rfl).mp unpackExponent_packComponents
    refine iff_of_true (fun hf => ?_) trivial
    cases hz.symm.trans hf
  case finite s m e h =>
    by_cases hf : Fits (.finite s m e h)
    case pos =>
      refine iff_of_true (fun hv => ?_) hf
      have hv := (field_pack hf).symm.trans hv
      unfold Fits at hf
      split at hv <;> omega
    case neg =>
      refine iff_of_false (not_not_intro ?_) hf
      exact (congrArg field (pack_of_not_fits hf)).trans (field_packedInfinity s)

theorem isFinite_iff : x.isFinite ↔ Fits x.toModel.unpack := by
  have hx : x.isFinite = x.toModel.unpack.isFinite := rfl
  rw [hx]
  cases hu : x.toModel.unpack
  case infinity => exact iff_of_false Bool.false_ne_true id
  case notANumber => exact iff_of_false Bool.false_ne_true id
  case zero => exact iff_of_true rfl trivial
  case finite =>
    have ⟨_, hf, he⟩ := parts_of_unpack hu
    refine iff_of_true rfl ?_
    unfold Fits
    omega

end Packing

end AnomalyDetection.Rounding
