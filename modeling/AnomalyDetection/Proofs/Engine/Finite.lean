import AnomalyDetection.Proofs.Decimal.Numeral
import AnomalyDetection.Proofs.Engine.Extremes
import AnomalyDetection.Proofs.Engine.Filter
import AnomalyDetection.Proofs.Engine.Presence
import AnomalyDetection.Proofs.Json.Numbers

namespace AnomalyDetection

open Accumulator (extreme?)
open Decimal (Magnitude SpellsDouble)

namespace Quantity

section

variable {β : Type} [LinearOrder β] {key : Float → β} {op : Float → Float → Float}
  {xs : List Float} {x : Float}

-- The extreme of a list has the key of one of its elements, and all the others come behind it.
theorem key_extreme? (hk : ∀ x y, key (op x y) = min (key x) (key y))
    (h : extreme? op xs = some x) : (∃ y ∈ xs, key y = key x) ∧ ∀ y ∈ xs, key x ≤ key y := by
  have hm : (xs.map key).min? = some (key x) := by
    have he := map_extreme? hk xs
    rw [h] at he
    cases xs <;> exact he.symm
  have ⟨hx, hl⟩ := List.min?_eq_some_iff.mp hm
  exact ⟨List.mem_map.mp hx, fun y hy => hl _ (List.mem_map_of_mem hy)⟩

-- Keys by which the finite doubles lie between an infinity that comes first and one that does not.
structure Bounds (key : Float → β) (first last : Float) : Prop where
  isFinite : ∀ x, x.isFinite ↔ key first < key x ∧ key x < key last
  first_le : ∀ x, key first ≤ key x
  eq_first : ∀ x, key x = key first → x = first

theorem Bounds.isFinite_extreme? {first last : Float} (hb : Bounds key first last)
    (hk : ∀ x y, key (op x y) = min (key x) (key y)) (h : extreme? op xs = some x) :
    x.isFinite ↔ (∃ y ∈ xs, y.isFinite) ∧ first ∉ xs := by
  have ⟨⟨y, hy, he⟩, hl⟩ := key_extreme? hk h
  rw [hb.isFinite, ← he]
  constructor
  case mp =>
    intro hx
    refine ⟨⟨y, hy, (hb.isFinite y).mpr hx⟩, fun hf => ?_⟩
    exact absurd (hl first hf) (not_le.mpr (he ▸ hx.left))
  case mpr =>
    rintro ⟨⟨z, hz, hf⟩, hn⟩
    refine ⟨lt_of_le_of_ne (hb.first_le y) fun hk => ?first, ?others⟩
    case first => exact hn (hb.eq_first y hk.symm ▸ hy)
    case others => exact he ▸ (hl z hz).trans_lt ((hb.isFinite z).mp hf).right

end

open Float.Model (UnpackedFloat)

def infinity (negative : Bool) : Float := Magnitude.infinity.signed negative

theorem isFinite_iff_rank {nan : ℤ} (hn : nan < -2 ∨ 2 < nan) (a : UnpackedFloat) : a.isFinite ↔
    rank nan (.infinity .negative) < rank nan a ∧ rank nan a < rank nan (.infinity .positive) := by
  rcases a with (_ | _) | _ | (_ | _) | ⟨_ | _, m, e, hm⟩
  all_goals simp [rank, Prod.Lex.toLex_lt_toLex, UnpackedFloat.isFinite]
  all_goals omega

theorem infinity_le_rank {nan : ℤ} (hn : -2 ≤ nan) (a : UnpackedFloat) :
    rank nan (.infinity .negative) ≤ rank nan a := by
  rcases a with (_ | _) | _ | (_ | _) | ⟨_ | _, m, e, hm⟩
  all_goals simp [rank, Prod.Lex.toLex_le_toLex]
  all_goals omega

theorem rank_le_infinity {nan : ℤ} (hn : nan ≤ 2) (a : UnpackedFloat) :
    rank nan a ≤ rank nan (.infinity .positive) := by
  rcases a with (_ | _) | _ | (_ | _) | ⟨_ | _, m, e, hm⟩
  all_goals simp [rank, Prod.Lex.toLex_le_toLex]
  all_goals omega

theorem eq_infinity_of_alike {x : Float} {negative : Bool} (h : Alike x (infinity negative)) :
    x = infinity negative := by
  have hz : ∀ b, infinity b ≠ 0 ∧ infinity b ≠ -0 := by decide +kernel
  have ⟨hp, hm⟩ := hz negative
  rcases h with h | ⟨_, h⟩ | ⟨_, h⟩
  · exact h
  · exact absurd h hm
  · exact absurd h hp

theorem bounds_low : Bounds low (infinity true) (infinity false) where
  isFinite x := isFinite_iff_rank (.inr (by decide)) x.toModel.unpack
  first_le x := infinity_le_rank (by decide) x.toModel.unpack
  eq_first _ h := eq_infinity_of_alike (alike_of_low h)

theorem bounds_high : Bounds high (infinity false) (infinity true) where
  isFinite x := (isFinite_iff_rank (.inl (by decide)) x.toModel.unpack).trans and_comm
  first_le x := rank_le_infinity (by decide) x.toModel.unpack
  eq_first _ h := eq_infinity_of_alike (alike_of_high h)

-- A sum does not get finite again.
theorem not_isFinite_foldl {xs : List Float} {x : Float}
    (h : ¬x.isFinite ∨ ∃ y ∈ xs, ¬y.isFinite) :
    ¬(xs.foldl (· + ·) x).isFinite := by
  induction xs generalizing x
  case nil =>
    refine h.resolve_right ?_
    rintro ⟨_, hy, _⟩
    cases hy
  case cons y xs hi =>
    refine hi ?_
    rcases h with h | ⟨z, hz, h⟩
    · exact .inl (Rounding.not_isFinite_add (.inl h))
    · rcases List.mem_cons.mp hz with rfl | hz
      · exact .inl (Rounding.not_isFinite_add (.inr h))
      · exact .inr ⟨z, hz, h⟩

end Quantity

namespace Json

-- The double that a value counts as. A text counts if it spells one between its blanks.
inductive StandsFor : Json → Float → Prop
  | number (n : Number) : StandsFor (number n) n.toFloat
  | text {s : String} {negative : Bool} {a : Magnitude} :
    SpellsDouble (Text.trim s.toList) negative a → StandsFor (string s) (a.signed negative)

-- A text that counts as a number without being one that there is a finite double for.
def Boundless (j : Json) : Prop :=
  ∃ s negative a, j = string s ∧ SpellsDouble (Text.trim s.toList) negative a ∧ ¬a.Bounded

-- A text that counts as an infinity, be it a word or too large a number.
def Infinite (negative : Bool) (j : Json) : Prop :=
  ∃ s a, j = string s ∧ SpellsDouble (Text.trim s.toList) negative a ∧ a.Unbounded

variable {row j : Json} {x : Float} {path : String}

theorem numeric?_eq_some : j.numeric? = some x ↔ j.StandsFor x := by
  constructor
  case mp =>
    intro h
    cases j
    case number n =>
      cases h
      exact .number n
    case string s =>
      obtain ⟨_, _, hs, rfl⟩ := Decimal.float?_eq_some.mp h
      exact .text hs
    all_goals cases h
  case mpr =>
    intro h
    cases h
    case number => rfl
    case text hs => exact Decimal.float?_eq_some.mpr ⟨_, _, hs, rfl⟩

theorem Boundless.not_isFinite (h : j.Boundless) (hx : j.numeric? = some x) : ¬x.isFinite := by
  obtain ⟨s, negative, a, rfl, hs, ha⟩ := h
  cases (numeric?_eq_some.mpr (.text hs)).symm.trans hx
  exact mt (Magnitude.isFinite_signed a negative).mp ha

theorem Boundless.isSome_numeric? (h : j.Boundless) : j.numeric?.isSome := by
  obtain ⟨s, negative, a, rfl, hs, ha⟩ := h
  rw [numeric?_eq_some.mpr (.text hs)]
  rfl

theorem isFinite_of_numeric? (hn : ∀ n, j.Mentions n → n.toFloat.isFinite)
    (h : j.numeric? = some x) (hb : ¬j.Boundless) : x.isFinite := by
  cases numeric?_eq_some.mp h
  case number n => exact hn n .number
  case text s negative a hs =>
    by_contra hf
    exact hb ⟨s, negative, a, rfl, hs, mt (Magnitude.isFinite_signed a negative).mpr hf⟩

theorem numeric?_eq_infinity {negative : Bool} (hn : ∀ n, j.Mentions n → n.toFloat.isFinite) :
    j.numeric? = some (Quantity.infinity negative) ↔ j.Infinite negative := by
  constructor
  case mp =>
    intro h
    generalize hx : Quantity.infinity negative = x at h
    cases numeric?_eq_some.mp h
    case number n =>
      have hf : ¬(Quantity.infinity negative).isFinite :=
        (Magnitude.isFinite_signed .infinity negative).mp
      exact absurd (hn n .number) (hx ▸ hf)
    case text s minus a hs =>
      obtain ⟨rfl, ha⟩ := Magnitude.signed_eq_infinity.mp hx.symm
      exact ⟨s, a, rfl, hs, ha⟩
  case mpr =>
    rintro ⟨s, a, rfl, hs, ha⟩
    have hx : Quantity.infinity negative = a.signed negative :=
      (Magnitude.signed_of_unbounded ha negative).symm
    rw [hx]
    exact numeric?_eq_some.mpr (.text hs)

theorem mentions_descend? {keys : List String} (h : row.descend? keys = some j) {n : Number}
    (hn : j.Mentions n) : row.Mentions n := by
  induction keys generalizing row
  case nil => exact Option.some_inj.mp h ▸ hn
  case cons key keys hi =>
    have ⟨k, hk, hd⟩ := Option.bind_eq_some_iff.mp h
    obtain ⟨ms, rfl, hm⟩ := mem_of_member? hk
    exact .member hm (hi hd)

theorem mentions_field? (h : row.field? path = some j) {n : Number} (hn : j.Mentions n) :
    row.Mentions n :=
  mentions_descend? (field?_eq_some.mp h).left hn

end Json

-- Whether a row has a value of some kind at a field.
def Shown (rows : Json → Prop) (field : String) (P : Json → Prop) : Prop :=
  ∃ row, rows row ∧ ∃ value, row.field? field = some value ∧ P value

theorem Aggregation.observation?_eq_number {a : Aggregation} {row : Json} {x : Float} :
    a.observation? row = some (.number x) ↔
      ∃ value, row.field? a.field = some value ∧ value.numeric? = some x := by
  unfold observation?
  cases row.field? a.field
  case none => simp
  case some value => cases hx : value.numeric? <;> simp [hx, Quantity.ofFloat]

-- Whether a value that has been made of rows is finite, as far as this is for their texts to say.
def Aggregation.FiniteBy (a : Aggregation) (rows : Json → Prop) (x : Float) : Prop :=
  let shown := Shown rows a.field
  match a.operator with
  | .valueCount => x.isFinite
  -- Finite numbers may have a sum that is too large, but the sum of others is never finite.
  | .avg | .sum => shown Json.Boundless → ¬x.isFinite
  | .min => x.isFinite ↔
    shown (fun j => j.numeric?.isSome ∧ ¬j.Boundless) ∧ ¬shown (Json.Infinite true)
  | .max => x.isFinite ↔
    shown (fun j => j.numeric?.isSome ∧ ¬j.Boundless) ∧ ¬shown (Json.Infinite false)

namespace Extract

open Observation (numbers)

variable {fs : FileSystem} {dir : String} {d : Detector} {b : Buckets} {filter : Filter}
  {a : Aggregation} {i : Nat} {row j : Json} {x : Float}

theorem RowIn.isFinite (h : RowIn fs dir d b filter i row) {n : Json.Number}
    (hn : row.Mentions n) : n.toFloat.isFinite := by
  have ⟨_, _, hr⟩ := h.line
  exact Json.isFinite_of_read? hr hn

theorem mem_numbers_observations : x ∈ numbers (observations Float fs dir d b filter a i) ↔
    Shown (RowIn fs dir d b filter i) a.field (·.numeric? = some x) := by
  rw [Observation.mem_numbers, mem_observations]
  exact exists_congr fun row => and_congr_right fun _ => Aggregation.observation?_eq_number

theorem exists_isFinite_iff :
    (∃ x ∈ numbers (observations Float fs dir d b filter a i), x.isFinite) ↔
      Shown (RowIn fs dir d b filter i) a.field fun j => j.numeric?.isSome ∧ ¬j.Boundless := by
  simp only [mem_numbers_observations]
  constructor
  case mp =>
    rintro ⟨x, ⟨row, hr, j, hj, hx⟩, hf⟩
    exact ⟨row, hr, j, hj, Option.isSome_of_eq_some hx, fun hb => hb.not_isFinite hx hf⟩
  case mpr =>
    rintro ⟨row, hr, j, hj, hs, hb⟩
    have ⟨x, hx⟩ := Option.isSome_iff_exists.mp hs
    have hn (n : Json.Number) (hn : j.Mentions n) := hr.isFinite (Json.mentions_field? hj hn)
    exact ⟨x, ⟨row, hr, j, hj, hx⟩, Json.isFinite_of_numeric? hn hx hb⟩

theorem mem_infinity_iff {negative : Bool} :
    Quantity.infinity negative ∈ numbers (observations Float fs dir d b filter a i) ↔
      Shown (RowIn fs dir d b filter i) a.field (Json.Infinite negative) := by
  rw [mem_numbers_observations]
  refine exists_congr fun row => and_congr_right fun hr => exists_congr fun j =>
    and_congr_right fun hj => Json.numeric?_eq_infinity fun n hn => ?_
  exact hr.isFinite (Json.mentions_field? hj hn)

theorem exists_not_isFinite (h : Shown (RowIn fs dir d b filter i) a.field Json.Boundless) :
    ∃ x ∈ numbers (observations Float fs dir d b filter a i), ¬x.isFinite := by
  have ⟨row, hr, j, hj, hb⟩ := h
  have ⟨x, hx⟩ := Option.isSome_iff_exists.mp hb.isSome_numeric?
  exact ⟨x, mem_numbers_observations.mpr ⟨row, hr, j, hj, hx⟩, hb.not_isFinite hx⟩

theorem not_isFinite_total (h : Shown (RowIn fs dir d b filter i) a.field Json.Boundless) :
    ¬(Accumulator.total (numbers (observations Float fs dir d b filter a i))).isFinite :=
  Quantity.not_isFinite_foldl (.inr (exists_not_isFinite h))

theorem IsGroupBy.finiteBy {f : Feature} {s : Series Float}
    (hs : IsGroupBy fs dir d b filter f a s) (hi : i < b.count)
    (h : s.values[i]?.join = some x) : a.FiniteBy (RowIn fs dir d b filter i) x := by
  rw [hs.value_eq hi] at h
  unfold Aggregation.FiniteBy
  cases ho : a.operator <;> rw [ho] at h
  case valueCount =>
    rw [Accumulator.finish_valueCount] at h
    cases h
    exact Rounding.isFinite_toFloat _
  case sum =>
    rw [Accumulator.finish_sum] at h
    split at h
    case isTrue => cases h
    case isFalse =>
      cases h
      exact not_isFinite_total
  case avg =>
    rw [Accumulator.finish_avg] at h
    split at h
    case isTrue => cases h
    case isFalse =>
      cases h
      exact fun hb => Rounding.not_isFinite_div (not_isFinite_total hb)
  case min =>
    rw [Accumulator.finish_min] at h
    rw [Quantity.bounds_low.isFinite_extreme? Quantity.low_lesser h]
    exact and_congr exists_isFinite_iff (not_congr mem_infinity_iff)
  case max =>
    rw [Accumulator.finish_max] at h
    rw [Quantity.bounds_high.isFinite_extreme? Quantity.high_greater h]
    exact and_congr exists_isFinite_iff (not_congr mem_infinity_iff)

end Extract

namespace Score

variable {s : Series Float} {x mean deviation : Float} {i : Nat}

theorem not_isFinite_total {xs : List Float} (hm : x ∈ xs) (hx : ¬x.isFinite) :
    ¬(total xs).isFinite := by
  cases xs
  case nil => cases hm
  case cons y xs =>
    refine Quantity.not_isFinite_foldl ?_
    rcases List.mem_cons.mp hm with rfl | hm
    · exact .inl hx
    · exact .inr ⟨x, hm, hx⟩

theorem not_isFinite_mean (hm : some x ∈ s.values.toList) (hx : ¬x.isFinite)
    (h : statistics? s.values.toList = some (mean, deviation)) : ¬mean.isFinite := by
  simp only [statistics?] at h
  split at h
  case isTrue => cases h
  case isFalse =>
    cases h
    have hm : x ∈ s.values.toList.filterMap id := List.mem_filterMap.mpr ⟨some x, hm, rfl⟩
    exact Rounding.not_isFinite_div (not_isFinite_total hm hx)

theorem not_isFinite_deviation? (hm : ¬mean.isFinite)
    (h : deviation? s (some (mean, deviation)) i = some x) : ¬x.isFinite := by
  have ⟨y, _, h⟩ := Option.bind_eq_some_iff.mp h
  cases h
  have hs : ¬(y - mean).isFinite := Rounding.not_isFinite_sub (.inr hm)
  exact Rounding.not_isFinite_div (mt Rounding.isFinite_abs.mp hs)

end Score

-- A series without a finite mean, so that no bucket has a finite deviation from it.
def Series.Spoiled (s : Series Float) : Prop :=
  ∃ mean deviation, Score.statistics? s.values.toList = some (mean, deviation) ∧ ¬mean.isFinite ∧
    ∀ i x, Score.deviation? s (some (mean, deviation)) i = some x → ¬x.isFinite

theorem Series.spoiled_of_mem {s : Series Float} {x : Float} (hm : some x ∈ s.values.toList)
    (hx : ¬x.isFinite) : s.Spoiled := by
  have ⟨(mean, deviation), h⟩ := Option.isSome_iff_exists.mp (Score.isSome_statistics? hm)
  have hf := Score.not_isFinite_mean hm hx h
  exact ⟨mean, deviation, h, hf, fun i x => Score.not_isFinite_deviation? hf⟩

namespace Extract

-- Nothing but texts of rows makes a least or a greatest number anything but finite. Wherever they
-- do, and wherever a sum is not finite, the statistics of the series are not finite either.
theorem extract_finiteBy {fs : FileSystem} {dir : String} {d : Detector} {b : Buckets}
    {all : List (Series Float)} (h : extract fs dir d b = .ok all) :
    (∀ (j : Json) (x : Float), j.numeric? = some x ↔ j.StandsFor x) ∧
    ∃ filter, Filter.ofQuery d.filter = .ok filter ∧
      (∀ i row n, RowIn fs dir d b filter i row → row.Mentions n → n.toFloat.isFinite) ∧
      List.Forall₂
        (fun f s => ∃ a, Aggregation.ofFeature f = .ok a ∧
          (∀ i < b.count, ∀ x, s.values[i]?.join = some x →
            a.FiniteBy (RowIn fs dir d b filter i) x) ∧
          ∀ x, some x ∈ s.values.toList → ¬x.isFinite → s.Spoiled)
        d.enabledFeatures all := by
  have ⟨filter, hf, hg⟩ := extract_eq_ok h
  refine ⟨fun j x => Json.numeric?_eq_some, filter, hf, fun _ _ _ hr => hr.isFinite, hg.imp ?_⟩
  rintro f s ⟨a, ha, hs⟩
  exact ⟨a, ha, fun i hi x => hs.finiteBy hi, fun x => Series.spoiled_of_mem⟩

-- One row with a number that is too large, as a text. The other bucket has nothing but a one.
theorem extract_finiteBy_too_large :
    let query : Json := .object [("a", .object [("max", .object [("field", .string "x")])])]
    let d := { Detector.blank with
      timeField := "t", indices := ["m"], features := [⟨none, "f", true, query⟩] }
    let fs : FileSystem := ⟨[(["m.jsonl"],
      .file (Text.octets "\x7b\"t\":0,\"x\":\"1e999\"\x7d\n\x7b\"t\":60000,\"x\":1\x7d\n"))], []⟩
    let b : Buckets := ⟨.ofParts 0 0 0, .ofMillis 60000, 2⟩
    ∃ all : List (Series Float), extract fs "/" d b = .ok all ∧
      all.map (·.values) = [#[some (1 / 0), some 1]] ∧
      (∀ (j : Json) (x : Float), j.numeric? = some x ↔ j.StandsFor x) ∧
      ∃ filter, Filter.ofQuery d.filter = .ok filter ∧
        (∀ i row n, RowIn fs "/" d b filter i row → row.Mentions n → n.toFloat.isFinite) ∧
        List.Forall₂
          (fun f s => ∃ a, Aggregation.ofFeature f = .ok a ∧
            (∀ i < b.count, ∀ x, s.values[i]?.join = some x →
              a.FiniteBy (RowIn fs "/" d b filter i) x) ∧
            ∀ x, some x ∈ s.values.toList → ¬x.isFinite → s.Spoiled)
          d.enabledFeatures all := by
  intro query d fs b
  have h : (extract (α := Float) fs "/" d b).toOption.map (·.map (·.values)) =
      some [#[some (1 / 0), some 1]] := by
    decide +kernel
  have ⟨all, hx, hv⟩ := Option.map_eq_some_iff.mp h
  have hx := Outcome.eq_ok_of_toOption hx
  exact ⟨all, hx, hv, extract_finiteBy hx⟩

end Extract

end AnomalyDetection
