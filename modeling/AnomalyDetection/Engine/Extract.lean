import AnomalyDetection.Engine.Aggregation
import AnomalyDetection.Engine.Filter

namespace AnomalyDetection

-- The values of a feature, bucket by bucket.
structure Series (α : Type) where
  id : String
  name : String
  values : Array (Option α)

namespace Extract

-- The file of an index in a directory of series.
def indexPath (dir index : String) : String :=
  Files.join dir (index ++ ".jsonl")

-- The lines of an index. One without a file has none.
def indexLines (fs : FileSystem) (dir index : String) : Except FileFault (List (List Char)) :=
  match fs.readText (indexPath dir index) with
  | .ok s => .ok (Text.lines s)
  | .error .notFound => .ok []
  | .error e => .error e

-- The row of a line and the bucket of the row, if an execution has to look at it. A line that is no
-- row, and a row without a time, is passed over.
def place? (d : Detector) (b : Buckets) (filter : Filter) (line : List Char) :
    Option (Nat × Json) := do
  if Text.allBlank line then none
  let row ← Json.read? (line.map some)
  let t ← (Instant.ofTimestamp (← row.field? d.timeField)).toOption
  let i ← b.indexOf? t
  if filter.accepts row then some (i, row) else none

-- The totals with what one more row shows.
def note [Quantity α] (a : Aggregation) (totals : Array (Accumulator α)) (row : Nat × Json) :
    Array (Accumulator α) :=
  match a.observation? row.2 with
  | some o => totals.modify row.1 (·.observe o)
  | none => totals

-- The totals of one feature in `count` buckets.
def tally [Quantity α] (count : Nat) (a : Aggregation) (rows : List (Nat × Json)) :
    Array (Accumulator α) :=
  rows.foldl (note a) (Array.replicate count .empty)

def series [Quantity α] (count : Nat) (rows : List (Nat × Json)) (f : Feature) (a : Aggregation) :
    Series α where
  id := f.key
  name := f.name
  values := (tally count a rows).map (·.finish a.operator)

end Extract

open Extract in
-- One series per enabled feature, in the detector's order.
def extract [Quantity α] (fs : FileSystem) (dir : String) (d : Detector) (b : Buckets) :
    Except Engine.Fault (List (Series α)) := do
  let filter ← Filter.ofQuery d.filter
  let features ← d.enabledFeatures.mapM fun f => (Aggregation.ofFeature f).map (f, ·)
  let lines ← (d.indices.mapM (indexLines fs dir)).mapError .file
  let rows := lines.flatten.filterMap (place? d b filter)
  return features.map fun (f, a) => series b.count rows f a

end AnomalyDetection
