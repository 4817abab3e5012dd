import AnomalyDetection.Proofs.Engine.Accumulator
import AnomalyDetection.Proofs.Engine.Alignment

namespace AnomalyDetection

variable {α : Type} [Quantity α] {fs : FileSystem} {dir : String} {d : Detector} {b : Buckets}
  {filter : Filter}

namespace Aggregation

-- Whether rows have what the value of an aggregation is made of.
def FoundIn (a : Aggregation) (rows : Json → Prop) : Prop :=
  match a.operator with
  | .valueCount => True
  | .avg | .sum => ∃ row, rows row ∧ ∃ value, row.field? a.field = some value
  | .min | .max =>
    ∃ row, rows row ∧ ∃ value, row.field? a.field = some value ∧ value.numeric?.isSome

variable {a : Aggregation} {row : Json}

variable (α) in
theorem exists_observation?_iff :
    (∃ o : Observation α, a.observation? row = some o) ↔
      ∃ value, row.field? a.field = some value := by
  unfold observation?
  cases row.field? a.field <;> simp

variable (α) in
theorem exists_number_iff :
    (∃ x : α, a.observation? row = some (.number x)) ↔
      ∃ value, row.field? a.field = some value ∧ value.numeric?.isSome := by
  unfold observation?
  cases row.field? a.field
  case none => simp
  case some value => cases hx : value.numeric? <;> simp [hx]

end Aggregation

-- Whether a feature asks for a count.
def Feature.Counts (f : Feature) : Bool :=
  match Aggregation.ofFeature f with
  | .ok a => a.operator = .valueCount
  | .error _ => false

namespace Extract

variable (fs dir d b filter) in
-- A row that an execution looks at in a bucket.
structure RowIn (i : Nat) (row : Json) : Prop where
  line : ∃ line ∈ allLines fs dir d, Json.read? (line.map some) = some row
  time : ∃ time t, row.field? d.timeField = some time ∧ Instant.ofTimestamp time = .ok t ∧
    b.indexOf? t = some i
  accepted : filter.accepts row

variable (α fs dir d b filter) in
-- What the rows of a bucket show for an aggregation.
def observations (a : Aggregation) (i : Nat) : List (Observation α) :=
  (allLines fs dir d).filterMap (observation? d b filter a.field i)

theorem mem_observations {a : Aggregation} {i : Nat} {o : Observation α} :
    o ∈ observations α fs dir d b filter a i ↔
      ∃ row, RowIn fs dir d b filter i row ∧ a.observation? row = some o := by
  rw [observations, List.mem_filterMap]
  constructor
  case mp =>
    rintro ⟨line, hl, ho⟩
    have ⟨row, hr, ho⟩ := Option.bind_eq_some_iff.mp ho
    have ⟨time, ht, ho⟩ := Option.bind_eq_some_iff.mp ho
    have ⟨t, hi, ho⟩ := Option.bind_eq_some_iff.mp ho
    split at ho
    case isFalse => cases ho
    case isTrue hb =>
      have hi := Outcome.eq_ok_of_toOption hi
      exact ⟨row, ⟨⟨line, hl, hr⟩, ⟨time, t, ht, hi, hb.left⟩, hb.right⟩, ho⟩
  case mpr =>
    rintro ⟨row, ⟨⟨line, hl, hr⟩, ⟨time, t, ht, hi, hb⟩, hf⟩, ho⟩
    refine ⟨line, hl, ?_⟩
    simp only [observation?, hr, ht, hi, Except.toOption, bind, Option.bind_some, hb, hf, and_self,
      if_true]
    exact ho

theorem observations_ne_nil {a : Aggregation} {i : Nat} :
    observations α fs dir d b filter a i ≠ [] ↔
      ∃ row, RowIn fs dir d b filter i row ∧ ∃ value, row.field? a.field = some value := by
  simp only [ne_eq, List.eq_nil_iff_forall_not_mem, not_forall, not_not, mem_observations,
    ← Aggregation.exists_observation?_iff α]
  exact ⟨fun ⟨o, row, h, ho⟩ => ⟨row, h, o, ho⟩, fun ⟨row, h, o, ho⟩ => ⟨o, row, h, ho⟩⟩

theorem numbers_observations_ne_nil {a : Aggregation} {i : Nat} :
    Observation.numbers (observations α fs dir d b filter a i) ≠ [] ↔
      ∃ row, RowIn fs dir d b filter i row ∧
        ∃ value, row.field? a.field = some value ∧ value.numeric?.isSome := by
  simp only [ne_eq, List.eq_nil_iff_forall_not_mem, not_forall, not_not, Observation.mem_numbers,
    mem_observations, ← Aggregation.exists_number_iff α]
  exact ⟨fun ⟨o, row, h, ho⟩ => ⟨row, h, o, ho⟩, fun ⟨row, h, o, ho⟩ => ⟨o, row, h, ho⟩⟩

namespace IsGroupBy

variable {f : Feature} {a : Aggregation} {s : Series α} {i : Nat}
  (hs : IsGroupBy fs dir d b filter f a s) (hi : i < b.count)

include hs hi

theorem value_eq : s.values[i]?.join =
    (Accumulator.ofList (observations α fs dir d b filter a i)).finish a.operator := by
  rw [hs.values i hi, Option.join_some, observations]

-- A bucket has a value for an aggregation just if its rows have what it is made of.
theorem isSome_value :
    (s.values[i]?.join).isSome ↔ a.FoundIn (RowIn fs dir d b filter i) := by
  rw [hs.value_eq hi]
  refine (Accumulator.isSome_finish _ a.operator).trans ?_
  unfold Aggregation.FoundIn
  cases a.operator
  case valueCount => exact Iff.rfl
  case avg | sum => exact observations_ne_nil
  case min | max => exact numbers_observations_ne_nil

theorem value_of_no_row (ha : Aggregation.ofFeature f = .ok a)
    (hn : ∀ row, ¬RowIn fs dir d b filter i row) :
    s.values[i]?.join = if f.Counts then some (Quantity.ofNat 0) else none := by
  have ho : observations α fs dir d b filter a i = [] := by
    by_contra ho
    have ⟨row, hr, _⟩ := observations_ne_nil.mp ho
    exact hn row hr
  rw [hs.value_eq hi, ho, Accumulator.finish_nil, Feature.Counts, ha]
  simp only [decide_eq_true_eq]

end IsGroupBy

end Extract

namespace Score

theorem isSome_statistics? {values : List (Option α)} {x : α} (h : some x ∈ values) :
    (statistics? values).isSome := by
  have hm : x ∈ values.filterMap id := List.mem_filterMap.mpr ⟨some x, h, rfl⟩
  rw [statistics?, if_neg (mt List.isEmpty_iff.mp (List.ne_nil_of_mem hm))]
  rfl

-- A series with a value in one bucket has statistics, and so a deviation there.
theorem isSome_deviation? (s : Series α) (i : Nat) :
    (deviation? s (statistics? s.values.toList) i).isSome = (s.values[i]?.join).isSome := by
  cases h : s.values[i]?.join
  case none => simp [deviation?, h]
  case some x =>
    have hm : some x ∈ s.values.toList :=
      Array.mem_toList_iff.mpr (Array.mem_of_getElem? (Option.join_eq_some_iff.mp h))
    have ⟨st, hs⟩ := Option.isSome_iff_exists.mp (isSome_statistics? hm)
    simp [deviation?, h, hs]

variable {all : List (Series α)} {threshold : α} {r : AnomalyResult α} {i : Nat}

theorem confidence_buckets (h : (buckets d b all threshold)[i]? = some r) :
    r.confidence = Quantity.ofNat (r.features.countP (·.data.isSome)) /
      Quantity.ofNat (max r.features.length 1) := by
  have ⟨hi, hr⟩ := List.getElem?_eq_some_iff.mp h
  simp only [buckets, List.getElem_map, List.getElem_range] at hr
  subst hr
  rw [features_bucket, List.length_map, List.countP_map]
  simp only [bucket, List.length_map]
  rw [List.length_filterMap_eq_countP, List.countP_map]
  congr 2
  exact List.countP_congr fun s _ => by
    rw [Function.comp_apply, Function.comp_apply, isSome_deviation?]

end Score

variable (fs dir d b filter) in
-- The result of a bucket, with what there has to be for it among the rows of the bucket.
structure AnomalyResult.Backed (i : Nat) (r : AnomalyResult α) : Prop where
  bounds : (r.start, r.stop) = b.bounds i
  data : List.Forall₂
    (fun (f : Feature) (x : FeatureData α) => x.id = f.key ∧ x.name = f.name ∧
      ∃ a, Aggregation.ofFeature f = .ok a ∧
        (x.data.isSome ↔ a.FoundIn (Extract.RowIn fs dir d b filter i)))
    d.enabledFeatures r.features
  confidence : r.confidence = Quantity.ofNat (r.features.countP (·.data.isSome)) /
    Quantity.ofNat d.enabledFeatures.length
  -- All that a bucket without rows has to show is counts.
  blank : (∀ row, ¬Extract.RowIn fs dir d b filter i row) →
    List.Forall₂
      (fun (f : Feature) (x : FeatureData α) =>
        x.data = if f.Counts then some (Quantity.ofNat 0) else none)
      d.enabledFeatures r.features ∧
    r.confidence = Quantity.ofNat (d.enabledFeatures.countP Feature.Counts) /
      Quantity.ofNat d.enabledFeatures.length

open Extract in
theorem backed_of_isGroupBy {all : List (Series α)} {threshold : α} {r : AnomalyResult α} {i : Nat}
    (hd : d.enabledFeatures ≠ [])
    (hg : List.Forall₂
      (fun f s => ∃ a, Aggregation.ofFeature f = .ok a ∧ IsGroupBy fs dir d b filter f a s)
      d.enabledFeatures all)
    (h : (Score.buckets d b all threshold)[i]? = some r) : r.Backed fs dir d b filter i := by
  have ⟨hi, hb, _, hr⟩ := Score.getElem?_buckets h
  have hc : r.confidence = Quantity.ofNat (r.features.countP (·.data.isSome)) /
      Quantity.ofNat d.enabledFeatures.length := by
    rw [Score.confidence_buckets h, hr, List.length_map, ← hg.length_eq,
      Nat.max_eq_left (List.length_pos_iff.mpr hd)]
  refine ⟨hb, ?features, hc, fun hn => ?confidence⟩
  case features =>
    rw [hr, List.forall₂_map_right_iff]
    exact hg.imp fun f s ⟨a, ha, hs⟩ => ⟨hs.id, hs.name, a, ha, hs.isSome_value hi⟩
  case confidence =>
    have hv : List.Forall₂
        (fun (f : Feature) (x : FeatureData α) =>
          x.data = if f.Counts then some (Quantity.ofNat 0) else none)
        d.enabledFeatures r.features := by
      rw [hr, List.forall₂_map_right_iff]
      exact hg.imp fun f s ⟨a, ha, hs⟩ => hs.value_of_no_row hi ha hn
    refine ⟨hv, ?_⟩
    rw [hc, Traversal.countP_eq hv]
    intro f x hx
    rw [hx]
    cases f.Counts <;> rfl

-- Without counts, an execution shows nothing that has no row behind it. Which rows those are is
-- said by the numbers of the buckets that their times fall into.
theorem backed_of_execute {start stop : Instant} {limit : Nat} {threshold : α}
    {results : List (AnomalyResult α)}
    (h : execute (extract fs dir) threshold limit d start stop = .ok results) :
    ∃ b filter, Buckets.split start stop d.interval.length limit = .ok b ∧
      Filter.ofQuery d.filter = .ok filter ∧ results.length = b.count ∧
      ∀ (i : Nat) (r : AnomalyResult α), results[i]? = some r → r.Backed fs dir d b filter i := by
  have ⟨hd, interval, b, series, hi, hb, hx, hr⟩ := execute_eq_ok.mp h
  have ⟨_, hl⟩ := Interval.span_eq_ok hi
  subst hl hr
  have ⟨filter, hf, hg⟩ := Extract.extract_eq_ok hx
  exact ⟨b, filter, hb, hf, Score.length_buckets, fun i r => backed_of_isGroupBy hd hg⟩

-- A sum and a count of two minutes, with a row in the first one.
theorem backed_of_execute_one_row :
    let query (operator : String) : Json :=
      .object [("a", .object [(operator, .object [("field", .string "x")])])]
    let d := { Detector.blank with
      timeField := "t", indices := ["m"], interval := ⟨1, .minutes⟩,
      features := [⟨none, "f", true, query "sum"⟩, ⟨none, "g", true, query "value_count"⟩] }
    let fs : FileSystem := ⟨[(["m.jsonl"], .file (Text.octets "\x7b\"t\":0,\"x\":2\x7d\n"))], []⟩
    let start : Instant := .ofParts 0 0 0
    let stop : Instant := .ofParts 0 120 0
    ∃ results : List (AnomalyResult Float),
      execute (extract fs "/") 3 2 d start stop = .ok results ∧
      results.map (fun r => (r.features.map (·.data), r.confidence)) =
        [([some 2, some 1], 1), ([none, some 0], 0.5)] ∧
      ∃ b filter, Buckets.split start stop d.interval.length 2 = .ok b ∧
        Filter.ofQuery d.filter = .ok filter ∧ results.length = b.count ∧
        ∀ (i : Nat) (r : AnomalyResult Float), results[i]? = some r →
          r.Backed fs "/" d b filter i := by
  intro query d fs start stop
  have h : (execute (α := Float) (extract fs "/") 3 2 d start stop).toOption.map
      (·.map fun r => (r.features.map (·.data), r.confidence)) =
        some [([some 2, some 1], 1), ([none, some 0], 0.5)] := by
    decide +kernel
  have ⟨results, hr, hv⟩ := Option.map_eq_some_iff.mp h
  have hr := Outcome.eq_ok_of_toOption hr
  exact ⟨results, hr, hv, backed_of_execute hr⟩

-- A count of what is not there. The directory has no files, and yet the bucket reports data for its
-- only feature, with all the confidence there is.
theorem counted_without_rows :
    let query : Json :=
      .object [("a", .object [("value_count", .object [("field", .string "x")])])]
    let d := { Detector.blank with
      timeField := "t", indices := ["m"], interval := ⟨1, .minutes⟩,
      features := [⟨none, "f", true, query⟩] }
    let fs : FileSystem := ⟨[], []⟩
    (∀ b filter i row, ¬Extract.RowIn fs "/" d b filter i row) ∧
    ∃ r : AnomalyResult Float,
      execute (extract fs "/") 3 1 d (.ofParts 0 0 0) (.ofParts 0 60 0) = .ok [r] ∧
      r.features.map (·.data) = [some 0] ∧ r.confidence = 1 := by
  intro query d fs
  have hl : Extract.allLines fs "/" d = [] := by decide +kernel
  refine ⟨fun b filter i row hr => ?noRow, ?counted⟩
  case noRow =>
    have ⟨line, hm, _⟩ := hr.line
    rw [hl] at hm
    cases hm
  case counted =>
    have h : (execute (α := Float) (extract fs "/") 3 1 d (.ofParts 0 0 0)
        (.ofParts 0 60 0)).toOption.map (·.map fun r => (r.features.map (·.data), r.confidence)) =
          some [([some 0], 1)] := by
      decide +kernel
    have ⟨results, hr, hv⟩ := Option.map_eq_some_iff.mp h
    obtain ⟨r, rfl, hx⟩ := List.map_eq_singleton_iff.mp hv
    have ⟨hd, hc⟩ := Prod.mk.inj hx
    exact ⟨r, Outcome.eq_ok_of_toOption hr, hd, hc⟩

end AnomalyDetection
