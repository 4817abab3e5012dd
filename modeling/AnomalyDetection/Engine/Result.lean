import AnomalyDetection.Time.Json
import AnomalyDetection.Engine.Quantity

namespace AnomalyDetection

-- The value of a feature in the bucket, if the bucket has data for it.
structure FeatureData (α : Type) where
  id : String
  name : String
  data : Option α

-- What an execution says about one bucket.
structure AnomalyResult (α : Type) where
  detectorId : Option String
  start : Instant
  stop : Instant
  score : α
  -- Zero for a normal bucket, more than that up to one for an anomalous one.
  grade : α
  -- The share of features that have data in the bucket.
  confidence : α
  features : List (FeatureData α)
  error : Option String

def AnomalyResult.isAnomalous [Quantity α] (r : AnomalyResult α) : Bool :=
  Quantity.lt (Quantity.ofNat 0) r.grade

open Json (Shape Decoder)

namespace FeatureData

def shape : Shape (FeatureData Float) where
  name := "FeatureData"
  blank := ⟨"", "", none⟩
  fields := [
    .required "feature_id" Decoder.string fun x f => { f with id := x },
    .required "feature_name" Decoder.string fun x f => { f with name := x },
    .positional "data" (Decoder.optional Decoder.float) fun x f => { f with data := x }]

def toJson (f : FeatureData Float) : Json :=
  .object [
    ("feature_id", .string f.id),
    ("feature_name", .string f.name),
    ("data", match f.data with
      | some x => .number (.float x)
      | none => .null)]

end FeatureData

namespace AnomalyResult

def shape : Shape (AnomalyResult Float) where
  name := "AnomalyResult"
  blank := ⟨none, .ofParts 0 0 0, .ofParts 0 0 0, 0, 0, 0, [], none⟩
  fields := [
    .defaulted "detector_id" (Decoder.optional Decoder.string)
      fun x r => { r with detectorId := x },
    .required "data_start_time" Decoder.instant fun x r => { r with start := x },
    .required "data_end_time" Decoder.instant fun x r => { r with stop := x },
    .required "anomaly_score" Decoder.float fun x r => { r with score := x },
    .required "anomaly_grade" Decoder.float fun x r => { r with grade := x },
    .required "confidence" Decoder.float fun x r => { r with confidence := x },
    .required "feature_data" (Decoder.list FeatureData.shape.decode)
      fun x r => { r with features := x },
    .defaulted "error" (Decoder.optional Decoder.string) fun x r => { r with error := x }]

def toJson (r : AnomalyResult Float) : Json :=
  .object <|
    (r.detectorId.map fun x => ("detector_id", Json.string x)).toList ++
    [("data_start_time", r.start.toJson),
     ("data_end_time", r.stop.toJson),
     ("anomaly_score", .number (.float r.score)),
     ("anomaly_grade", .number (.float r.grade)),
     ("confidence", .number (.float r.confidence)),
     ("feature_data", .array (r.features.map FeatureData.toJson))] ++
    (r.error.map fun x => ("error", Json.string x)).toList

end AnomalyResult
end AnomalyDetection
