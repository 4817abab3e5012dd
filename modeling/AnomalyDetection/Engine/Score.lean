import AnomalyDetection.Engine.Extract
import AnomalyDetection.Engine.Result

namespace AnomalyDetection

namespace Score

variable {α : Type} [Quantity α]

-- The sum from left to right. It starts at the first quantity and not at zero, so that nothing but
-- negative zeros add up to a negative zero.
def total : List α → α
  | [] => Quantity.ofNat 0
  | x :: xs => xs.foldl (· + ·) x

-- Mean and standard deviation of the values that are present. The deviation is that of the
-- population and never less than epsilon.
def statistics? (values : List (Option α)) : Option (α × α) :=
  let present := values.filterMap id
  if present.isEmpty then none
  else
    let n : α := Quantity.ofNat present.length
    let mean := total present / n
    let variance := total (present.map fun x => (x - mean) * (x - mean)) / n
    some (mean, Quantity.greater (Quantity.sqrt variance) Quantity.epsilon)

-- The grade of a score: zero up to the threshold, one from twice the threshold on.
def grade (score threshold : α) : α :=
  if Quantity.le threshold (Quantity.ofNat 0) || Quantity.le score threshold then Quantity.ofNat 0
  else Quantity.clamp ((score - threshold) / threshold) Quantity.epsilon (Quantity.ofNat 1)

-- The deviation of a series in a bucket, if it has a value there.
def deviation? (s : Series α) (statistics : Option (α × α)) (i : Nat) : Option α := do
  let x ← s.values[i]?.join
  let (mean, deviation) ← statistics
  return Quantity.abs (x - mean) / deviation

-- The result for one bucket; every series stands beside its statistics. Its score is that of its
-- most deviant feature.
def bucket (d : Detector) (b : Buckets) (series : List (Series α × Option (α × α)))
    (threshold : α) (i : Nat) : AnomalyResult α :=
  let deviations := series.filterMap fun (s, statistics) => deviation? s statistics i
  let score := deviations.foldl Quantity.greater (Quantity.ofNat 0)
  let (start, stop) := b.bounds i
  { detectorId := d.id
    start
    stop
    score
    grade := grade score threshold
    confidence := Quantity.ofNat deviations.length / Quantity.ofNat (max series.length 1)
    features := series.map fun (s, _) => ⟨s.id, s.name, s.values[i]?.join⟩
    error := none }

-- The results for all buckets, in order of time.
def buckets (d : Detector) (b : Buckets) (series : List (Series α)) (threshold : α) :
    List (AnomalyResult α) :=
  let series := series.map fun s => (s, statistics? s.values.toList)
  (List.range b.count).map (bucket d b series threshold)

end Score

-- Where an execution gets its series from.
abbrev SeriesSource (α : Type) := Detector → Buckets → Except Engine.Fault (List (Series α))

-- Executes a detector over a window.
def execute [Quantity α] (source : SeriesSource α) (threshold : α) (limit : Nat) (d : Detector)
    (start stop : Instant) : Except Engine.Fault (List (AnomalyResult α)) := do
  if d.enabledFeatures = [] then throw .noEnabledFeatures
  let interval ← d.interval.span.mapError fun e => .invalidDetector (.interval e)
  let b ← (Buckets.split start stop interval limit).mapError .ofBuckets
  let series ← source d b
  return Score.buckets d b series threshold

end AnomalyDetection
