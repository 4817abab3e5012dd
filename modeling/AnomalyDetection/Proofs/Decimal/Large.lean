import AnomalyDetection.Decimal.Binary
import AnomalyDetection.Proofs.Decimal.Finite

namespace AnomalyDetection.Rounding

open Float.Model (UnpackedFloat totalExponent)
open Float.Model.UnpackedFloat (Sign roundWithAccuracy)

variable {x y : Float} {j k m : Nat} {e : Int} {s : Sign} {n : UInt64}

theorem Reaches.field_lt (h : Reaches k x) : field x.toBits.toBitVec < 2047 :=
  Nat.lt_of_le_of_ne (Nat.le_of_lt_succ (BitVec.isLt _)) ((isFinite_unpack _).mp h.right)

-- A large double has a mantissa of 53 bits.
theorem Reaches.exists_unpack (h : Reaches k x) : ∃ s m e h,
    x.toModel.unpack = .finite s m e h ∧ m.log2 = 52 ∧ k - 52 ≤ e ∧ e ≤ 971 := by
  have hl := h.left
  have hf := h.field_lt
  have ⟨s, m, hm, hu, hn⟩ := Rounding.exists_unpack (by omega) hf
  have ⟨hm', _, _⟩ := parts_of_unpack hu
  exact ⟨s, m, _, hm, hu, (Nat.log2_eq_iff hm.ne').mpr ⟨hn, hm'⟩, by omega, by omega⟩

theorem reaches_pack {h : 0 < m} (hl : m.log2 = 52) (hk : (k : Int) - 52 ≤ e) (he : e ≤ 971) :
    Reaches k (.ofModel (.pack (.finite s m e h))) := by
  have hf : Fits (.finite s m e h) := he
  refine ⟨?_, isFinite_pack.mpr hf⟩
  change 1023 + k ≤ field (UnpackedFloat.pack .binary64 _)
  rw [field_pack hf, if_pos hl]
  omega

theorem Reaches.neg (h : Reaches k x) : Reaches k (-x) := by
  have ⟨s, m, e, hm, hu, hl, hk, he⟩ := h.exists_unpack
  have hn : -x = .ofModel (.pack x.toModel.unpack.neg) := rfl
  rw [hn, hu]
  exact reaches_pack hl hk he

theorem Reaches.mul (hx : Reaches j x) (hy : Reaches k y) (hf : (x * y).isFinite) :
    Reaches (j + k) (x * y) := by
  have ⟨s, m, e, hm, hu, hl, hk, he⟩ := hx.exists_unpack
  have ⟨t, n, f, hn, hv, hl', hk', he'⟩ := hy.exists_unpack
  have hp : x * y = .ofModel (.pack (.mul .binary64 x.toModel.unpack y.toModel.unpack)) := rfl
  have hr : UnpackedFloat.mul .binary64 (.finite s m e hm) (.finite t n f hn) =
    roundWithAccuracy .binary64 (s * t) (m * n) (e + f) .exact := rfl
  rw [hp, hu, hv, hr] at hf ⊢
  have hb : 104 ≤ (m * n).log2 := by
    rw [Nat.le_log2 (Nat.mul_pos hm hn).ne']
    calc 2 ^ 104
      _ = 2 ^ 52 * 2 ^ 52 := by decide
      _ ≤ m * n := Nat.mul_le_mul (hl ▸ Nat.log2_self_le hm.ne') (hl' ▸ Nat.log2_self_le hn.ne')
  exact reaches_round (by omega) (by unfold totalExponent; omega) (isFinite_pack.mp hf)

theorem reaches_toFloat (h : 2 ^ k ≤ n.toNat) : Reaches k n.toFloat := by
  have hz : n.toNat ≠ 0 := Nat.ne_of_gt (Nat.lt_of_lt_of_le (by positivity) h)
  have hl : k ≤ n.toNat.log2 := (Nat.le_log2 hz).mpr h
  have hf := isFinite_toFloat n
  have hn : n.toFloat = .ofModel (.pack (.ofNat .binary64 n.toNat)) := rfl
  have hr : UnpackedFloat.ofNat .binary64 n.toNat = _ := normalize_natCast (Nat.pos_of_ne_zero hz)
  have ht := totalExponent_shiftLeft hz (52 - n.toNat.log2) 0
  rw [Int.zero_sub] at ht
  rw [hn, hr] at hf ⊢
  refine reaches_round ?exponent ?field (isFinite_pack.mp hf)
  case exponent => rw [log2_shiftLeft hz]; omega
  case field => rw [ht, totalExponent]; omega

theorem Reaches.ne_zero (h : Reaches k x) : (x == 0) = false := by
  have ⟨s, m, e, hm, hu, _⟩ := h.exists_unpack
  have hb : (x == 0) = x.toModel.unpack.beq (0 : Float).toModel.unpack := rfl
  have hz : (0 : Float).toModel.unpack = .zero .positive := rfl
  rw [hb, hu, hz]
  cases s <;> rfl

theorem field_eq (b : BitVec 64) : field b = b.toNat >>> 52 % 2048 :=
  BitVec.extractLsb_toNat 62 52 b

open Decimal (Binary saturate)

theorem Reaches.ofFloat? (h : Reaches k x) :
    ∃ b, Binary.ofFloat? x = some b ∧ 2 ^ 52 ≤ b.mantissa ∧ (k : Int) - 52 ≤ b.exponent := by
  have hl := h.left
  have hf := h.field_lt
  rw [field_eq] at hl hf
  have hb : x.toBits.toBitVec.toNat = x.toBits.toNat := rfl
  rw [hb] at hl hf
  refine ⟨_, (if_neg (by omega)).trans (if_neg (by omega)), ?mantissa, ?exponent⟩
  case mantissa => exact Nat.le_add_right ..
  case exponent => dsimp only; omega

theorem truncate_of_le {b : Binary} (hm : 2 ^ 52 ≤ b.mantissa) (he : 1 ≤ b.exponent) :
    b.truncate ≤ -2 ^ 53 ∨ 2 ^ 53 ≤ b.truncate := by
  obtain ⟨negative, mantissa, exponent, _⟩ := b
  dsimp only at hm he
  obtain ⟨k, rfl⟩ := Int.eq_ofNat_of_zero_le (Int.le_trans (by decide) he)
  have hp : 2 ^ 53 ≤ mantissa <<< k := by
    rw [Nat.shiftLeft_eq]
    calc 2 ^ 53
      _ = 2 ^ 52 * 2 ^ 1 := by decide
      _ ≤ mantissa * 2 ^ k := Nat.mul_le_mul hm (Nat.pow_le_pow_right (by decide) (by omega))
  cases negative
  case false => exact .inr (Int.ofNat_le.mpr hp)
  case true => exact .inl (Int.neg_le_neg (Int.ofNat_le.mpr hp))

theorem Reaches.saturate (h : Reaches 53 x) : saturate x ≤ -2 ^ 53 ∨ 2 ^ 53 ≤ saturate x := by
  have ⟨b, hb, hm, he⟩ := h.ofFloat?
  have ht := truncate_of_le hm he
  have hl : Int64.minValue.toInt = -2 ^ 63 := rfl
  have hu : Int64.maxValue.toInt = 2 ^ 63 - 1 := rfl
  simp only [Decimal.saturate, hb, hl, hu]
  omega

end AnomalyDetection.Rounding
