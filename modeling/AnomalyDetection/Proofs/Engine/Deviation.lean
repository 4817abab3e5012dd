import AnomalyDetection.Proofs.Engine.Exact
import AnomalyDetection.Proofs.Engine.Execution

namespace AnomalyDetection.Score

open Population (mean deviation distance)
open Quantity (clamp_eq epsilon epsilon_pos epsilon_le_one)

section Grade

variable {score threshold : ℝ}

theorem grade_eq (score threshold : ℝ) : grade score threshold =
    if threshold ≤ 0 ∨ score ≤ threshold then 0
    else max epsilon (min ((score - threshold) / threshold) 1) := by
  have hz : (Quantity.ofNat 0 : ℝ) = 0 := Nat.cast_zero
  have ho : (Quantity.ofNat 1 : ℝ) = 1 := Nat.cast_one
  simp only [grade, Quantity.le, hz, ho, Bool.or_eq_true, decide_eq_true_eq]
  exact congrArg _ (clamp_eq _ epsilon_le_one)

theorem grade_pos_iff (ht : 0 < threshold) : 0 < grade score threshold ↔ threshold < score := by
  rw [grade_eq]
  split
  case isTrue h =>
    exact iff_of_false (lt_irrefl 0) (not_lt.mpr (h.resolve_left (not_le.mpr ht)))
  case isFalse h =>
    exact iff_of_true (epsilon_pos.trans_le (le_max_left _ _)) (not_le.mp (not_or.mp h).right)

theorem grade_nonneg (score threshold : ℝ) : 0 ≤ grade score threshold := by
  rw [grade_eq]
  split
  case isTrue => exact le_rfl
  case isFalse => exact epsilon_pos.le.trans (le_max_left _ _)

theorem grade_le_one (score threshold : ℝ) : grade score threshold ≤ 1 := by
  rw [grade_eq]
  split
  case isTrue => exact zero_le_one
  case isFalse => exact max_le epsilon_le_one (min_le_right _ _)

theorem grade_zero (threshold : ℝ) : grade 0 threshold = 0 := by
  rw [grade_eq, if_pos (le_total threshold 0)]

theorem grade_monotone (threshold : ℝ) : Monotone fun score : ℝ => grade score threshold := by
  intro x y h
  change grade x threshold ≤ grade y threshold
  rw [grade_eq x]
  split
  case isTrue => exact grade_nonneg y threshold
  case isFalse hx =>
    have ⟨ht, hx⟩ := not_or.mp hx
    have hd : (x - threshold) / threshold ≤ (y - threshold) / threshold :=
      div_le_div_of_nonneg_right (sub_le_sub_right h threshold) (not_le.mp ht).le
    rw [grade_eq, if_neg (not_or_intro ht (not_le.mpr ((not_le.mp hx).trans_le h)))]
    exact max_le_max le_rfl (min_le_min hd le_rfl)

end Grade

theorem lt_foldl_max_iff {x m : ℝ} {xs : List ℝ} :
    x < xs.foldl max m ↔ x < m ∨ ∃ y ∈ xs, x < y := by
  induction xs generalizing m
  case nil => simp
  case cons y xs hi => simp [hi, or_assoc]

variable {d : Detector} {b : Buckets} {all : List (Series ℝ)} {threshold : ℝ}
  {r : AnomalyResult ℝ} {i : ℕ}

-- How far the values of a bucket lie from the means of their series.
noncomputable def distances (all : List (Series ℝ)) (i : ℕ) : List ℝ :=
  all.filterMap fun s => s.values[i]?.join.map (distance s.present epsilon)

theorem mem_distances {x : ℝ} :
    x ∈ distances all i ↔
      ∃ s ∈ all, ∃ v, s.values[i]?.join = some v ∧ distance s.present epsilon v = x := by
  simp only [distances, List.mem_filterMap, Option.map_eq_some_iff]

theorem score_buckets (h : (buckets d b all threshold)[i]? = some r) :
    r.score = (distances all i).foldl max 0 ∧ r.grade = grade r.score threshold := by
  obtain ⟨hi, hr⟩ := List.getElem?_eq_some_iff.mp h
  simp only [buckets, List.getElem_map, List.getElem_range] at hr
  subst hr
  refine ⟨?_, rfl⟩
  have hd : (all.map fun s => (s, statistics? s.values.toList)).filterMap
      (fun p => deviation? p.1 p.2 i) = distances all i := by
    simp only [List.filterMap_map, Function.comp_def, deviation?_eq, distances]
  have hz : (Quantity.ofNat 0 : ℝ) = 0 := Nat.cast_zero
  rw [← hd, ← hz]
  rfl

theorem lt_score_iff (h : (buckets d b all threshold)[i]? = some r) (ht : 0 < threshold) :
    threshold < r.score ↔
      ∃ s ∈ all, ∃ v, s.values[i]?.join = some v ∧ threshold < distance s.present epsilon v := by
  rw [(score_buckets h).left, lt_foldl_max_iff]
  constructor
  case mp =>
    rintro (hn | ⟨_, hm, hx⟩)
    · exact absurd ht hn.asymm
    · have ⟨s, hs, v, hv, he⟩ := mem_distances.mp hm
      exact ⟨s, hs, v, hv, he ▸ hx⟩
  case mpr =>
    rintro ⟨s, hs, v, hv, hx⟩
    exact .inr ⟨_, mem_distances.mpr ⟨s, hs, v, hv, rfl⟩, hx⟩

theorem score_of_no_data (h : (buckets d b all threshold)[i]? = some r)
    (hn : ∀ s ∈ all, s.values[i]?.join = none) : r.score = 0 := by
  have hd : distances all i = [] := by
    refine List.eq_nil_iff_forall_not_mem.mpr fun x hx => ?_
    have ⟨s, hs, v, hv, _⟩ := mem_distances.mp hx
    cases (hn s hs).symm.trans hv
  rw [(score_buckets h).left, hd, List.foldl_nil]

-- Every bucket has a result, and it is an anomaly just if some feature has a value there that is
-- too far away. What is missing elsewhere changes nothing about that.
theorem anomalous_iff_deviant (d : Detector) (b : Buckets) (all : List (Series ℝ)) {threshold : ℝ}
    (ht : 0 < threshold) :
    (∀ i < b.count, ∃ r : AnomalyResult ℝ, (buckets d b all threshold)[i]? = some r ∧
      (0 < r.grade ↔ ∃ s ∈ all, ∃ v, s.values[i]?.join = some v ∧
        threshold < distance s.present epsilon v) ∧
      0 ≤ r.grade ∧ r.grade ≤ 1 ∧
      ((∀ s ∈ all, s.values[i]?.join = none) → r.grade = 0) ∧
      r.grade = grade r.score threshold) ∧
    Monotone fun score : ℝ => grade score threshold := by
  refine ⟨fun i hi => ?_, grade_monotone threshold⟩
  have hl : i < (buckets d b all threshold).length := by rwa [length_buckets]
  have hr := List.getElem?_eq_getElem hl
  have ⟨_, hg⟩ := score_buckets hr
  refine ⟨_, hr, ?anomalous, ?nonneg, ?le_one, fun hn => ?zero, hg⟩
  case anomalous => rw [hg, grade_pos_iff ht, lt_score_iff hr ht]
  case nonneg => rw [hg]; exact grade_nonneg ..
  case le_one => rw [hg]; exact grade_le_one ..
  case zero => rw [hg, score_of_no_data hr hn, grade_zero]

-- A feature with two values, each of them one deviation away from the mean, and another one with a
-- single value, which is its own mean.
theorem anomalous_iff_deviant_half :
    let f : Series ℝ := ⟨"f", "f", #[some 0, some 2, none]⟩
    let g : Series ℝ := ⟨"g", "g", #[none, none, some 5]⟩
    let b : Buckets := ⟨.ofParts 0 0 0, .ofMillis 60000, 3⟩
    (0 : ℝ) < 1 / 2 ∧
    (∃ r : AnomalyResult ℝ, (buckets .blank b [f, g] (1 / 2))[1]? = some r ∧ 0 < r.grade) ∧
    ∃ r : AnomalyResult ℝ, (buckets .blank b [f, g] (1 / 2))[2]? = some r ∧ r.grade = 0 := by
  intro f g b
  have ht : (0 : ℝ) < 1 / 2 := by norm_num
  have hf : mean f.present = 1 ∧ deviation f.present = 1 := by
    have hp : f.present = [0, 2] := rfl
    norm_num [hp, mean, deviation, Population.variance]
  have hg : mean g.present = 5 := by
    have hp : g.present = [5] := rfl
    norm_num [hp, mean]
  obtain ⟨hr, _⟩ := anomalous_iff_deviant .blank b [f, g] ht
  refine ⟨ht, ?anomalous, ?ordinary⟩
  case anomalous =>
    obtain ⟨r, hb, ha, _⟩ := hr 1 (by decide)
    refine ⟨r, hb, ha.mpr ⟨f, List.mem_cons_self, 2, rfl, ?_⟩⟩
    rw [distance, hf.left, hf.right, max_eq_left epsilon_le_one]
    norm_num
  case ordinary =>
    obtain ⟨r, hb, ha, hz, _⟩ := hr 2 (by decide)
    refine ⟨r, hb, hz.antisymm' (not_lt.mp fun hp => ?_)⟩
    obtain ⟨s, hs, v, hv, hx⟩ := ha.mp hp
    rcases List.mem_pair.mp hs with rfl | rfl
    · cases hv
    · cases hv
      rw [distance, hg, sub_self, abs_zero, zero_div] at hx
      exact hx.asymm ht

end AnomalyDetection.Score
