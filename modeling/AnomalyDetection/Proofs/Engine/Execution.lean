import AnomalyDetection.Engine.Score
import AnomalyDetection.Proofs.Engine.Buckets
import AnomalyDetection.Proofs.Engine.Extract
import AnomalyDetection.Proofs.Outcome

namespace AnomalyDetection

theorem execute_eq_ok [Quantity α] {source : SeriesSource α} {threshold : α} {limit : Nat}
    {d : Detector} {start stop : Instant} {results : List (AnomalyResult α)} :
    execute source threshold limit d start stop = .ok results ↔ d.enabledFeatures ≠ [] ∧
      ∃ interval b series, d.interval.span = .ok interval ∧
        Buckets.split start stop interval limit = .ok b ∧ source d b = .ok series ∧
        results = Score.buckets d b series threshold := by
  constructor
  case mp =>
    intro h
    unfold execute at h
    split at h
    case isTrue => cases h
    case isFalse hd =>
      have ⟨interval, hi, h⟩ := Outcome.bind_eq_ok h
      have ⟨b, hb, h⟩ := Outcome.bind_eq_ok h
      have ⟨series, hs, h⟩ := Outcome.bind_eq_ok h
      cases h
      exact ⟨hd, interval, b, series, Outcome.mapError_eq_ok hi, Outcome.mapError_eq_ok hb, hs, rfl⟩
  case mpr =>
    rintro ⟨hd, interval, b, series, hi, hb, hs, rfl⟩
    unfold execute
    rw [if_neg hd, hi]
    simp only [bind, Except.bind, Except.mapError, hb, hs]
    rfl

-- What is understood and can be read is executed.
theorem execute_of_readable [Quantity α] {fs : FileSystem} {dir : String} {d : Detector}
    {start stop : Instant} {limit : Nat} {interval : Span} {b : Buckets} {filter : Filter}
    (hd : d.enabledFeatures ≠ []) (hi : d.interval.span = .ok interval)
    (hb : Buckets.split start stop interval limit = .ok b)
    (hf : Filter.ofQuery d.filter = .ok filter)
    (ha : ∀ f ∈ d.enabledFeatures, ∃ a, Aggregation.ofFeature f = .ok a)
    (hr : ∀ index ∈ d.indices, Extract.Readable fs dir index) (threshold : α) :
    ∃ series, execute (extract fs dir) threshold limit d start stop =
      .ok (Score.buckets d b series threshold) := by
  have ⟨series, hx, _⟩ := Extract.extract_of_readable (α := α) (b := b) hf ha hr
  exact ⟨series, execute_eq_ok.mpr ⟨hd, interval, b, series, hi, hb, hx, rfl⟩⟩

-- There is a result for every bucket, and no window is split into none.
theorem execute_ne_nil [Quantity α] {source : SeriesSource α} {threshold : α} {limit : Nat}
    {d : Detector} {start stop : Instant} {results : List (AnomalyResult α)}
    (h : execute source threshold limit d start stop = .ok results) : results ≠ [] := by
  have ⟨_, interval, b, series, _, hb, _, hr⟩ := execute_eq_ok.mp h
  subst hr
  simp only [Score.buckets, ne_eq, List.map_eq_nil_iff, List.range_eq_nil]
  exact Nat.ne_of_gt (Buckets.count_pos hb)

namespace Score

variable [Quantity α] {d : Detector} {b : Buckets} {all : List (Series α)} {threshold : α}
  {r : AnomalyResult α} {i : Nat}

theorem length_buckets : (buckets d b all threshold).length = b.count := by
  simp only [buckets, List.length_map, List.length_range]

theorem features_bucket {stats : Series α → Option (α × α)} :
    (bucket d b (all.map fun s => (s, stats s)) threshold i).features =
      all.map fun s => ⟨s.id, s.name, s.values[i]?.join⟩ := by
  simp only [bucket, List.map_map]
  rfl

-- What a result has from its place.
theorem getElem?_buckets (h : (buckets d b all threshold)[i]? = some r) :
    i < b.count ∧ (r.start, r.stop) = b.bounds i ∧ r.detectorId = d.id ∧
      r.features = all.map fun s => ⟨s.id, s.name, s.values[i]?.join⟩ := by
  have ⟨hi, hr⟩ := List.getElem?_eq_some_iff.mp h
  rw [length_buckets] at hi
  simp only [buckets, List.getElem_map, List.getElem_range] at hr
  subst hr
  exact ⟨hi, rfl, rfl, features_bucket⟩

theorem buckets_stamp {id : Option String} {version : Option UInt64} :
    buckets { d with id, version } b all threshold =
      (buckets d b all threshold).map fun r => { r with detectorId := id } := by
  simp only [buckets, List.map_map]
  rfl

end Score

-- Id and version of a detector only mark its results.
theorem execute_stamp [Quantity α] {source : SeriesSource α} {threshold : α} {limit : Nat}
    {d : Detector} {start stop : Instant} {id : Option String} {version : Option UInt64}
    (hs : ∀ b, source { d with id, version } b = source d b) :
    execute source threshold limit { d with id, version } start stop =
      (execute source threshold limit d start stop).map
        (List.map fun r => { r with detectorId := id }) := by
  have he : Detector.enabledFeatures { d with id, version } = d.enabledFeatures := rfl
  unfold execute
  rw [he]
  split
  case isTrue => rfl
  case isFalse =>
    cases d.interval.span
    case error => rfl
    case ok interval =>
      change Except.bind (Except.mapError _ (Buckets.split start stop interval limit)) _ =
        Except.map _ (Except.bind (Except.mapError _ (Buckets.split start stop interval limit)) _)
      cases Buckets.split start stop interval limit
      case error => rfl
      case ok b =>
        change Except.bind (source _ b) _ = Except.map _ (Except.bind (source d b) _)
        rw [hs]
        cases source d b
        case error => rfl
        case ok series => exact congrArg Except.ok Score.buckets_stamp

end AnomalyDetection
