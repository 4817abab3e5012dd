import AnomalyDetection.Detector.Interval
import AnomalyDetection.Time.Json

namespace AnomalyDetection

structure Feature where
  id : Option String
  name : String
  enabled : Bool
  -- `{ "<aggregation>": { "<operator>": { "field": "<path>" } } }`
  query : Json
  deriving DecidableEq

-- Which indices to read, which features to extract from them, and how time is cut into buckets.
structure Detector where
  id : Option String
  version : Option UInt64
  name : String
  description : Option String
  timeField : String
  indices : List String
  features : List Feature
  filter : Option Json
  interval : Interval
  windowDelay : Option Interval
  shingleSize : UInt64
  schemaVersion : UInt32
  lastUpdate : Option Instant
  deriving DecidableEq

namespace Feature

-- The one key of the query; a query with fewer or more keys has no name.
def aggregationName? (f : Feature) : Option String :=
  match f.query with
  | .object [(name, _)] => some name
  | _ => none

-- What results call the feature by.
def key (f : Feature) : String :=
  f.id.getD f.name

end Feature

namespace Detector

def enabledFeatures (d : Detector) : List Feature :=
  d.features.filter (·.enabled)

-- The id in log lines.
def logName (d : Detector) : String :=
  d.id.getD "<inline>"

end Detector
end AnomalyDetection
