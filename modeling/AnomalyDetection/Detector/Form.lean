import AnomalyDetection.Detector.Basic

namespace AnomalyDetection

open Json (Shape Decoder)

namespace Feature

def shape : Shape Feature where
  name := "Feature"
  blank := ⟨none, "", true, .null⟩
  fields := [
    .defaulted "feature_id" (Decoder.optional Decoder.string) fun x f => { f with id := x },
    .required "feature_name" Decoder.string fun x f => { f with name := x },
    .defaulted "feature_enabled" Decoder.bool fun x f => { f with enabled := x },
    .required "aggregation_query" Decoder.value fun x f => { f with query := x }]

def toJson (f : Feature) : Json :=
  .object <|
    (f.id.map fun x => ("feature_id", Json.string x)).toList ++
    [("feature_name", .string f.name),
     ("feature_enabled", .bool f.enabled),
     ("aggregation_query", f.query)]

end Feature

namespace Detector

-- A detector without content: what it is before any field is read.
def blank : Detector where
  id := none
  version := none
  name := ""
  description := none
  timeField := ""
  indices := []
  features := []
  filter := none
  interval := ⟨0, .seconds⟩
  windowDelay := none
  shingleSize := 8
  schemaVersion := 0
  lastUpdate := none

def shape : Shape Detector where
  name := "AnomalyDetector"
  blank := blank
  fields := [
    .defaulted "detector_id" (Decoder.optional Decoder.string) fun x d => { d with id := x },
    .defaulted "version" (Decoder.optional (Decoder.uint64 "u64"))
      fun x d => { d with version := x },
    .required "name" Decoder.string fun x d => { d with name := x },
    .defaulted "description" (Decoder.optional Decoder.string)
      fun x d => { d with description := x },
    .required "time_field" Decoder.string fun x d => { d with timeField := x },
    .required "indices" (Decoder.list Decoder.string) fun x d => { d with indices := x },
    .defaulted "feature_attributes" (Decoder.list Feature.shape.decode)
      fun x d => { d with features := x },
    .defaulted "filter_query" (Decoder.optional Decoder.value) fun x d => { d with filter := x },
    .required "detection_interval" Interval.shape.decode fun x d => { d with interval := x },
    .defaulted "window_delay" (Decoder.optional Interval.shape.decode)
      fun x d => { d with windowDelay := x },
    .defaulted "shingle_size" (Decoder.uint64 "usize") fun x d => { d with shingleSize := x },
    .defaulted "schema_version" Decoder.uint32 fun x d => { d with schemaVersion := x },
    .defaulted "last_update_time" (Decoder.optional Decoder.instant)
      fun x d => { d with lastUpdate := x }]

-- The members of the written form, in the order of the fields.
def members (d : Detector) : List (String × Json) :=
  (d.id.map fun x => ("detector_id", Json.string x)).toList ++
  (d.version.map fun x => ("version", Json.natural x)).toList ++
  [("name", .string d.name)] ++
  (d.description.map fun x => ("description", Json.string x)).toList ++
  [("time_field", .string d.timeField),
   ("indices", .array (d.indices.map .string)),
   ("feature_attributes", .array (d.features.map Feature.toJson))] ++
  (d.filter.map fun x => ("filter_query", x)).toList ++
  [("detection_interval", d.interval.toJson)] ++
  (d.windowDelay.map fun x => ("window_delay", x.toJson)).toList ++
  [("shingle_size", .natural d.shingleSize),
   ("schema_version", .natural d.schemaVersion.toUInt64)] ++
  (d.lastUpdate.map fun x => ("last_update_time", x.toJson)).toList

def toJson (d : Detector) : Json := .object d.members

end Detector

-- Why a document is not what it should be.
inductive DocumentFault
  | decode (fault : Json.Fault)
  | notAnObject (kind : String)

def DocumentFault.message : DocumentFault → String
  | decode fault => "Serialization error: " ++ fault.message
  | notAnObject kind => "Expected a JSON object, found " ++ kind

-- The record in a document, which has to be an object.
def Json.Shape.ofDocument (shape : Shape ρ) (source : Octets) : Except DocumentFault ρ :=
  match Json.readOctets? source with
  | none => .error (.decode .malformed)
  | some (.object ms) => (Json.decodeValue shape.decode (.object ms)).mapError .decode
  | some j => .error (.notAnObject j.kind)

-- The detector of a stored document. Id and version are the store's, whatever the document says.
def Detector.ofDocument (source : Octets) (id : String) (version : Option UInt64) :
    Except DocumentFault Detector :=
  (Detector.shape.ofDocument source).map fun d => { d with id := some id, version }

end AnomalyDetection
