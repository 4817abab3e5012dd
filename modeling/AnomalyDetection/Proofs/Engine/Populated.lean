import AnomalyDetection.Proofs.Engine.Deviation

namespace AnomalyDetection

namespace Population

variable {xs : List ℝ} {x : ℝ}

theorem length_mul_mean (xs : List ℝ) : xs.length * mean xs = xs.sum := by
  cases xs
  case nil => simp
  case cons x xs =>
    have hn : ((x :: xs).length : ℝ) ≠ 0 := Nat.cast_ne_zero.mpr (Nat.succ_ne_zero xs.length)
    exact mul_div_cancel₀ _ hn

-- Numbers above the mean make up for those below.
theorem sum_sub_mean (xs : List ℝ) : (xs.map fun x => x - mean xs).sum = 0 := by
  simp only [sub_eq_add_neg]
  rw [List.sum_map_add, List.map_id', List.map_const', List.sum_replicate, nsmul_eq_mul, mul_neg,
    length_mul_mean, add_neg_cancel]

theorem length_mul_variance (xs : List ℝ) :
    xs.length * variance xs = (xs.map fun x => (x - mean xs) ^ 2).sum := by
  rw [← length_mul_mean, List.length_map, variance]

theorem variance_nonneg (xs : List ℝ) : 0 ≤ variance xs := by
  refine div_nonneg (List.sum_nonneg fun y hy => ?_) (Nat.cast_nonneg _)
  obtain ⟨x, _, rfl⟩ := List.mem_map.mp hy
  exact sq_nonneg _

theorem sq_sum_le (xs : List ℝ) : xs.sum ^ 2 ≤ xs.length * (xs.map (· ^ 2)).sum := by
  have hs : ∑ i : Fin xs.length, xs[i] = xs.sum := Fin.sum_univ_getElem xs
  have hq : ∑ i : Fin xs.length, xs[i] ^ 2 = (xs.map (· ^ 2)).sum :=
    Fin.sum_univ_fun_getElem xs (· ^ 2)
  have h : (∑ i : Fin xs.length, xs[i]) ^ 2 ≤ _ := sq_sum_le_card_mul_sum_sq
  rwa [Finset.card_fin, hs, hq] at h

-- The others lie on the other side of the mean, and they lie least far away if they are all alike.
theorem sq_sub_mean_le (h : x ∈ xs) : (x - mean xs) ^ 2 ≤ (xs.length - 1) * variance xs := by
  set d := x - mean xs
  set others := (xs.erase x).map fun y => y - mean xs with ho
  have hp : xs.Perm (x :: xs.erase x) := List.perm_cons_erase h
  have hn : (xs.length : ℝ) = others.length + 1 := by
    rw [ho, List.length_map, hp.length_eq, List.length_cons, Nat.cast_succ]
  have hd : others.sum = -d := by
    have hs := sum_sub_mean xs
    rw [(hp.map _).sum_eq, List.map_cons, List.sum_cons] at hs
    exact eq_neg_of_add_eq_zero_right hs
  have hq : xs.length * variance xs = d ^ 2 + (others.map (· ^ 2)).sum := by
    rw [length_mul_variance, (hp.map _).sum_eq, List.map_cons, List.sum_cons, ho, List.map_map]
    rfl
  have hc : d ^ 2 ≤ others.length * (others.map (· ^ 2)).sum := by
    rw [← neg_sq, ← hd]
    exact sq_sum_le others
  have hm : (xs.length : ℝ) * d ^ 2 ≤ xs.length * (others.length * variance xs) :=
    calc (xs.length : ℝ) * d ^ 2
      _ = others.length * d ^ 2 + d ^ 2 := by rw [hn]; ring
      _ ≤ others.length * d ^ 2 + others.length * (others.map (· ^ 2)).sum := by gcongr
      _ = others.length * (xs.length * variance xs) := by rw [hq]; ring
      _ = xs.length * (others.length * variance xs) := by ring
  have hl : (0 : ℝ) < xs.length := Nat.cast_pos.mpr (List.length_pos_of_mem h)
  rw [hn, add_sub_cancel_right]
  exact le_of_mul_le_mul_left hm hl

theorem variance_le_sq (xs : List ℝ) (least : ℝ) :
    variance xs ≤ max (deviation xs) least ^ 2 := by
  rw [← Real.sq_sqrt (variance_nonneg xs)]
  exact pow_le_pow_left₀ (Real.sqrt_nonneg _) (le_max_left _ _) 2

theorem sq_sub_mean_le_max (h : x ∈ xs) (least : ℝ) :
    (x - mean xs) ^ 2 ≤ (xs.length - 1) * max (deviation xs) least ^ 2 := by
  have hl : (1 : ℝ) ≤ xs.length := Nat.one_le_cast.mpr (List.length_pos_of_mem h)
  exact (sq_sub_mean_le h).trans
    (mul_le_mul_of_nonneg_left (variance_le_sq xs least) (sub_nonneg.mpr hl))

theorem sq_distance_le (h : x ∈ xs) {least : ℝ} (hl : 0 < least) :
    distance xs least x ^ 2 ≤ xs.length - 1 := by
  have hm : 0 < max (deviation xs) least := hl.trans_le (le_max_right _ _)
  rw [distance, div_pow, sq_abs, div_le_iff₀ (pow_pos hm 2)]
  exact sq_sub_mean_le_max h least

end Population

namespace Score

open Population (mean deviation distance)
open Quantity (epsilon epsilon_pos)

variable {d : Detector} {b : Buckets} {all : List (Series ℝ)} {threshold : ℝ}
  {r : AnomalyResult ℝ}

-- The number of the buckets that the fullest of the series has a value in.
def mostPopulated (all : List (Series ℝ)) : ℕ :=
  (Multiset.ofList (all.map fun s => s.present.length)).sup

theorem mostPopulated_le_iff {n : ℕ} :
    mostPopulated all ≤ n ↔ ∀ s ∈ all, s.present.length ≤ n := by
  simp only [mostPopulated, Multiset.sup_le, Multiset.mem_coe, List.forall_mem_map]

theorem present_le_mostPopulated {s : Series ℝ} (h : s ∈ all) :
    s.present.length ≤ mostPopulated all :=
  mostPopulated_le_iff.mp le_rfl s h

-- The score of a bucket is a distance of one of its values, if there is one.
theorem score_eq (h : r ∈ buckets d b all threshold) :
    r.score = 0 ∨ ∃ s ∈ all, ∃ v ∈ s.present, r.score = distance s.present epsilon v := by
  have ⟨i, hi⟩ := List.mem_iff_getElem?.mp h
  have hm : r.score ∈ 0 :: distances all i := by
    rw [(score_buckets hi).left]
    exact List.max?_mem List.max?_cons'
  refine (List.mem_cons.mp hm).imp_right fun hm => ?_
  have ⟨s, hs, v, hv, hd⟩ := mem_distances.mp hm
  exact ⟨s, hs, v, Series.mem_present hv, hd.symm⟩

theorem sq_score_le (h : r ∈ buckets d b all threshold) (hn : mostPopulated all ≠ 0) :
    r.score ^ 2 ≤ mostPopulated all - 1 := by
  rcases score_eq h with hz | ⟨s, hs, v, hv, hd⟩
  · have hl : (1 : ℝ) ≤ mostPopulated all := Nat.one_le_cast.mpr (Nat.one_le_iff_ne_zero.mpr hn)
    rw [hz, sq, mul_zero]
    exact sub_nonneg.mpr hl
  · have hl : (s.present.length : ℝ) ≤ mostPopulated all :=
      Nat.cast_le.mpr (present_le_mostPopulated hs)
    rw [hd]
    exact (Population.sq_distance_le hv epsilon_pos).trans (sub_le_sub_right hl 1)

theorem score_of_no_value (h : r ∈ buckets d b all threshold) (hn : mostPopulated all = 0) :
    r.score = 0 := by
  refine (score_eq h).resolve_right ?_
  rintro ⟨s, hs, v, hv, _⟩
  exact absurd (present_le_mostPopulated hs) (hn ▸ (List.length_pos_of_mem hv).not_ge)

theorem score_le_of_few (h : r ∈ buckets d b all threshold) (ht : 0 < threshold)
    (hf : ∀ s ∈ all, (s.present.length : ℝ) ≤ threshold ^ 2 + 1) : r.score ≤ threshold := by
  rcases score_eq h with hz | ⟨s, hs, v, hv, hd⟩
  · exact hz ▸ ht.le
  · rw [hd]
    refine le_of_sq_le_sq ?_ ht.le
    exact (Population.sq_distance_le hv epsilon_pos).trans (sub_le_iff_le_add.mpr (hf s hs))

-- What is not above the threshold is graded zero.
theorem isAnomalous_of_score_le (h : r ∈ buckets d b all threshold) (ht : 0 < threshold)
    (hs : r.score ≤ threshold) : r.isAnomalous = false := by
  have ⟨i, hi⟩ := List.mem_iff_getElem?.mp h
  have hz : (Quantity.ofNat 0 : ℝ) = 0 := Nat.cast_zero
  rw [AnomalyResult.isAnomalous, hz, (score_buckets hi).right]
  exact decide_eq_false (mt (grade_pos_iff ht).mp hs.not_gt)

-- Values lie no further from their mean than their number allows, and so do scores.
theorem scores_bounded_by_number (d : Detector) (b : Buckets) (all : List (Series ℝ))
    (threshold : ℝ) :
    (∀ s : Series ℝ, ∀ v ∈ s.present, ∃ m deviation,
      statistics? s.values.toList = some (m, deviation) ∧
      (v - m) ^ 2 ≤ (s.present.length - 1) * deviation ^ 2) ∧
    (∀ r ∈ buckets d b all threshold,
      if mostPopulated all = 0 then r.score = 0
      else r.score ^ 2 ≤ mostPopulated all - 1) ∧
    (0 < threshold → (∀ s ∈ all, (s.present.length : ℝ) ≤ threshold ^ 2 + 1) →
      ∀ r ∈ buckets d b all threshold, r.isAnomalous = false) := by
  refine ⟨fun s v hv => ?value, fun r hr => ?score, fun ht hf r hr => ?ordinary⟩
  case value =>
    exact ⟨_, _, statistics?_eq s (List.ne_nil_of_mem hv), Population.sq_sub_mean_le_max hv epsilon⟩
  case score =>
    split
    case isTrue hn => exact score_of_no_value hr hn
    case isFalse hn => exact sq_score_le hr hn
  case ordinary => exact isAnomalous_of_score_le hr ht (score_le_of_few hr ht hf)

-- A window of ten buckets under a threshold of three: one value is far away from nine that are all
-- alike, and yet not too far.
theorem scores_bounded_by_number_spike :
    let f : Series ℝ := ⟨"f", "f", (Array.replicate 9 (some 0)).push (some 1000)⟩
    let b : Buckets := ⟨.ofParts 0 0 0, .ofMillis 60000, 10⟩
    (1000 ∈ f.present ∧ ∃ m deviation, statistics? f.values.toList = some (m, deviation) ∧
      (1000 - m) ^ 2 ≤ (f.present.length - 1) * deviation ^ 2) ∧
    (0 : ℝ) < 3 ∧ (∀ s ∈ [f], (s.present.length : ℝ) ≤ 3 ^ 2 + 1) ∧
    ∃ r : AnomalyResult ℝ, r ∈ buckets .blank b [f] 3 ∧ r.score ^ 2 ≤ 9 ∧
      r.isAnomalous = false := by
  intro f b
  have hp : f.present = List.replicate 9 0 ++ [1000] := rfl
  have hv : 1000 ∈ f.present := hp ▸ List.mem_append_right _ List.mem_cons_self
  have hl : f.present.length = 10 := by rw [hp]; rfl
  have hf : ∀ s ∈ [f], (s.present.length : ℝ) ≤ 3 ^ 2 + 1 := by
    refine List.forall_mem_singleton.mpr ?_
    rw [hl]
    norm_num
  have ht : (0 : ℝ) < 3 := three_pos
  have hm : mostPopulated [f] = 10 := hl
  have hb : 9 < (buckets .blank b [f] 3).length := by rw [length_buckets]; decide
  have hr := List.getElem_mem hb
  have ⟨h, hs, ha⟩ := scores_bounded_by_number .blank b [f] 3
  have hs := hs _ hr
  rw [hm, if_neg (by decide)] at hs
  refine ⟨⟨hv, h f 1000 hv⟩, ht, hf, _, hr, hs.trans ?_, ha ht hf _ hr⟩
  norm_num

end Score
end AnomalyDetection
