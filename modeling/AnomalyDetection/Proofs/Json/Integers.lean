import AnomalyDetection.Proofs.Decimal.Large
import AnomalyDetection.Proofs.Json.Numbers
import AnomalyDetection.Proofs.Json.Reading

namespace AnomalyDetection.Json

open Decimal (AllDigits IsDecimal)
open Rounding (Reaches reaches_toFloat atLeastOne_pow)

theorem read?_literal {text : List Char} {l : Numeral} (hl : Numeral.ofText? text = some l)
    (he : l.Ended) : read? (text.map some) = l.value?.map number := by
  rw [read?, Document.read_literal hl he]
  exact Document.value?.eq_4 ..

-- The whole number of a number, cut off at 64 bits with a sign.
def Number.whole (n : Number) : Int := n.toInt?.getD (Decimal.saturate n.toFloat)

-- A number that is no closer to zero than the first whole number without a double.
def Number.Far (n : Number) : Prop := n.whole ≤ -2 ^ 53 ∨ 2 ^ 53 ≤ n.whole

-- What a number has to do with the whole number that is written in its literal.
def Number.StandsFor (m : Number) (n : Int) : Prop :=
  m.whole = n ∨ (n < -2 ^ 63 ∨ 2 ^ 63 ≤ n) ∧ m.Far

namespace Numeral

theorem far_signed {negative : Bool} {x : Float} (h : Reaches 53 x) : (signed negative x).Far := by
  cases negative
  case false => exact h.saturate
  case true => exact h.neg.saturate

-- Digits that are left out stand behind many others.
theorem gatherWhole_of_le {a : Nat} {ds : List Nat} (ha : a < UInt64.size) (hd : AllDigits ds)
    (h : UInt64.size ≤ ds.foldl (fun n d => 10 * n + d) a) :
    ∃ (s e : Nat), gatherWhole a ds = ⟨s, e + 1, false⟩ ∧ 2 ^ 53 ≤ s ∧ s < UInt64.size := by
  induction ds generalizing a
  case nil => exact absurd ha (Nat.not_lt.mpr h)
  case cons d ds hi =>
    have ⟨hd, hs⟩ := List.forall_mem_cons.mp hd
    unfold gatherWhole
    by_cases hl : a * 10 + d < UInt64.size
    case pos => rw [if_pos hl]; exact hi hl hs (Nat.mul_comm a 10 ▸ h)
    case neg =>
      have hz : UInt64.size = 2 ^ 64 := rfl
      rw [if_neg hl]
      exact ⟨a, ds.length, rfl, by omega, ha⟩

theorem reaches_scaled? {x y : Float} {k e : Nat} (hx : Reaches k x)
    (h : scaled? x (e + 1) = some y) : Reaches k y := by
  have hf := isFinite_go hx.right h
  unfold scaled? scaled?.go at h
  rw [if_pos (by omega)] at h
  split at h
  case isTrue he =>
    dsimp only at h
    split at h
    case isTrue => cases h
    case isFalse =>
      cases h
      exact hx.mul (k := 0) (atLeastOne_pow (by omega)) hf
  case isFalse => rw [hx.ne_zero] at h; cases h

variable {n : Nat} {ds : List Nat} {m : Number}

theorem far_of_value? (h : IsDecimal n ds) (hn : UInt64.size ≤ n) {negative : Bool}
    (hm : (ofDigits negative ds).value? = some m) : m.Far := by
  obtain ⟨s, e, hg, hs, hl⟩ := gatherWhole_of_le (by decide) h.digits (hn.trans_eq h.value.symm)
  simp only [value?, ofDigits, List.reverse_reverse, hg, List.reverse_nil, gatherFraction,
    Bool.false_eq_true, and_false, if_true, if_false] at hm
  obtain ⟨x, hx, rfl⟩ := Option.map_eq_some_iff.mp hm
  have hr : Reaches 53 (UInt64.ofNat s).toFloat :=
    reaches_toFloat (by rwa [UInt64.toNat_ofNat_of_lt' hl])
  exact far_signed (reaches_scaled? hr hx)

theorem standsFor_natural (n : UInt64) : (Number.natural n).StandsFor n.toNat := by
  have hw : (Number.natural n).whole =
    (if n.toNat < 2 ^ 63 then some (n.toNat : Int) else none).getD (Decimal.saturate n.toFloat) :=
      rfl
  unfold Number.StandsFor Number.Far
  rw [hw]
  split
  case isTrue => exact .inl rfl
  case isFalse h => exact .inr ⟨.inr (by omega), (reaches_toFloat (by omega)).saturate⟩

theorem standsFor_ofInteger {negative : Bool} {n : UInt64} (h : negative → 0 < n.toNat) :
    (ofInteger negative n).StandsFor (if negative then -n.toNat else n.toNat) := by
  have hz : UInt64.size / 2 = 2 ^ 63 := rfl
  cases negative
  case false => exact standsFor_natural n
  case true =>
    have h := h rfl
    rw [ofInteger, if_pos rfl, if_pos rfl]
    split
    case isTrue hl =>
      refine .inl ?_
      change -((n.toNat - 1 : Nat) + 1 : Int) = _
      omega
    case isFalse hl =>
      have hr : Reaches 53 n.toFloat := reaches_toFloat (by omega)
      exact .inr ⟨.inl (by omega), far_signed hr⟩

-- However large it is, if the literal of a whole number can be read at all.
theorem standsFor_value? (h : IsDecimal n ds) {negative : Bool} (hz : negative → 0 < n)
    (hm : (ofDigits negative ds).value? = some m) :
    m.StandsFor (if negative then -n else n) := by
  by_cases hn : n < UInt64.size
  case pos =>
    have hv : (UInt64.ofNat n).toNat = n := UInt64.toNat_ofNat_of_lt' hn
    have ho : (ofInteger negative (UInt64.ofNat n)).StandsFor _ :=
      standsFor_ofInteger (hv.symm ▸ hz)
    rw [value?_ofDigits h negative hn] at hm
    cases hm
    rwa [hv] at ho
  case neg =>
    have hs : UInt64.size = 2 ^ 64 := rfl
    have hf := far_of_value? h (Nat.not_lt.mp hn) hm
    cases negative
    case false => exact .inr ⟨.inr (by simp; omega), hf⟩
    case true => exact .inr ⟨.inl (by simp; omega), hf⟩

theorem exists_literal (n : Int) : ∃ l, ofText? (Decimal.integer n) = some l ∧ l.Ended ∧
    (∀ m, l.value? = some m → m.StandsFor n) ∧
    (n.natAbs < UInt64.size → ∃ m, l.value? = some m) := by
  cases n
  case ofNat n =>
    have ⟨ds, he, hd⟩ := Decimal.natural_eq_spelled n
    refine ⟨ofDigits false ds, ?text, ended_ofDigits .., fun m => ?standsFor, fun hn => ?value⟩
    case text => rw [Decimal.integer, he, ofText?_spelled hd]
    case standsFor => exact standsFor_value? hd nofun
    case value => exact ⟨_, value?_ofDigits hd false hn⟩
  case negSucc n =>
    have ⟨ds, he, hd⟩ := Decimal.natural_eq_spelled (n + 1)
    refine ⟨ofDigits true ds, ?text, ended_ofDigits .., fun m hm => ?standsFor, fun hn => ?value⟩
    case text => rw [Decimal.integer, he, ofText?_minus_spelled hd]
    case standsFor => exact standsFor_value? hd (fun _ => Nat.succ_pos n) hm
    case value => exact ⟨_, value?_ofDigits hd true hn⟩

end Numeral

variable {n : Int}

theorem standsFor_of_read? {j : Json} (h : read? ((Decimal.integer n).map some) = some j) :
    ∃ m, j = number m ∧ m.StandsFor n := by
  have ⟨l, hl, he, hs, _⟩ := Numeral.exists_literal n
  rw [read?_literal hl he] at h
  have ⟨m, hm, hj⟩ := Option.map_eq_some_iff.mp h
  exact ⟨m, hj.symm, hs m hm⟩

theorem read?_integer (h : n.natAbs < UInt64.size) :
    ∃ m, read? ((Decimal.integer n).map some) = some (number m) := by
  have ⟨l, hl, he, _, hv⟩ := Numeral.exists_literal n
  have ⟨m, hm⟩ := hv h
  exact ⟨m, by rw [read?_literal hl he, hm]; rfl⟩

end AnomalyDetection.Json
