import AnomalyDetection.OpenApi.Schema
import AnomalyDetection.Version

namespace AnomalyDetection.OpenApi

-- What a status means, and the schema of its body.
structure Reply where
  status : Nat
  note : String
  body : Option String := none

structure Operation where
  path : String
  method : String
  tag : String
  id : String
  summary : String
  -- Whether there is a detector's id in the path.
  hasId : Bool := false
  request : Option String := none
  replies : List Reply

-- A body in JSON.
def content (schema : String) : Json :=
  .object [("application/json", .object [("schema", reference schema)])]

def Reply.toJson (r : Reply) : Json :=
  .object (("description", .string r.note) :: (r.body.map fun s => ("content", content s)).toList)

def Operation.toJson (o : Operation) : Json :=
  .object <|
    [("tags", Json.array [.string o.tag]),
     ("summary", .string o.summary),
     ("operationId", .string o.id)] ++
    (if o.hasId then
      [("parameters", .array [.object [
        ("name", .string "detector_id"), ("in", .string "path"),
        ("description", .string "Detector id"), ("required", .bool true),
        ("schema", .object [("type", .string "string")])]])]
     else []) ++
    (o.request.map fun s =>
      ("requestBody", Json.object [("content", content s), ("required", .bool true)])).toList ++
    [("responses", .object (o.replies.map fun r => (toString r.status, r.toJson)))]

def int32 : Kind := .natural (some "int32")
def int64 : Kind := .natural (some "int64")
def size : Kind := .natural none

def schemas : List Schema := [
  .record "ErrorResponse" none [.needed "error" .string],
  .record "HealthResponse" none [
    .needed "status" .string,
    .needed "version" .string,
    .needed "detection_enabled" .boolean],
  .record "SettingsSnapshot" none [
    .needed "enabled" .boolean,
    .needed "max_anomaly_features" size,
    .needed "request_timeout_ms" int64],
  .record "SettingsUpdate" (some "Partial update; absent fields keep their current value.") [
    .maybe "enabled" .boolean,
    .maybe "max_anomaly_features" size,
    .maybe "request_timeout_ms" int64],
  .record "ExecutionInputBody" none [
    .maybe "detector_id" .string,
    .maybe "detector" (.schema "AnomalyDetector"),
    (Property.maybe "period_start" .string).described "Epoch milliseconds or RFC 3339.",
    (Property.maybe "period_end" .string).described "Epoch milliseconds or RFC 3339."],
  .record "AnomalyDetector"
    (some ("A named detector: which indices to read, which features to extract,\n" ++
      "and how the time axis is bucketed.")) [
    .maybe "detector_id" .string,
    (Property.maybe "version" int64).described
      "Revision marker assigned by the store on every write.",
    .needed "name" .string,
    .maybe "description" .string,
    .needed "time_field" .string,
    .needed "indices" (.list .string),
    .defaulted "feature_attributes" (.list (.schema "Feature")),
    .maybe "filter_query" .anything,
    .needed "detection_interval" (.schema "IntervalConfig"),
    .maybe "window_delay" (.schema "IntervalConfig"),
    .defaulted "shingle_size" size,
    .defaulted "schema_version" int32,
    .maybe "last_update_time" .instant],
  .record "Feature" (some "One extraction/aggregation definition feeding the engine.") [
    .maybe "feature_id" .string,
    .needed "feature_name" .string,
    .defaulted "feature_enabled" .boolean,
    (Property.needed "aggregation_query" .anything).described
      ("Single-key object: `\x7b \"<agg name>\": \x7b \"<op>\": " ++
        "\x7b \"field\": \"<field>\" \x7d \x7d \x7d`.")],
  .record "IntervalConfig"
    (some "`\x7b \"period\": \x7b \"interval\": 10, \"unit\": \"Minutes\" \x7d \x7d`") [
    .needed "period" (.schema "Period")],
  .record "Period" none [
    .needed "interval" int64,
    .needed "unit" (.schema "IntervalUnit")],
  .choice "IntervalUnit" ["Seconds", "Minutes", "Hours", "Days"],
  .record "AnomalyResult" (some "Detection outcome for one bucket of the execution window.") [
    .maybe "detector_id" .string,
    .needed "data_start_time" .instant,
    .needed "data_end_time" .instant,
    .needed "anomaly_score" .double,
    (Property.needed "anomaly_grade" .double).described
      "0 for normal buckets, (0, 1] for anomalous ones.",
    (Property.needed "confidence" .double).described
      "Share of enabled features that had data in the bucket.",
    .needed "feature_data" (.list (.schema "FeatureData")),
    .maybe "error" .string],
  .record "FeatureData" none [
    .needed "feature_id" .string,
    .needed "feature_name" .string,
    (Property.maybe "data" .double).described
      "Extracted value; absent when the bucket held no data for the feature."],
  .record "AnomalyResultResponse" none [
    .needed "anomaly_grade" .double,
    .needed "confidence" .double,
    .needed "anomaly_score" .double,
    .maybe "data_start_time" .instant,
    .maybe "data_end_time" .instant,
    .needed "feature_data" (.list (.schema "FeatureData")),
    .maybe "error" .string]]

-- The replies of a preview; `missing` says when there is no detector.
def previewReplies (missing : String) : List Reply := [
  ⟨200, "anomaly_result and anomaly_detector", none⟩,
  ⟨400, "Invalid request", some "ErrorResponse"⟩,
  ⟨404, missing, some "ErrorResponse"⟩,
  ⟨500, "Detection failed, body holds anomaly_detector only", none⟩]

def operations : List Operation := [
  { path := "/health", method := "get", tag := "Health", id := "health"
    summary := "Liveness plus the current detection switch."
    replies := [⟨200, "Server is up", some "HealthResponse"⟩] },
  { path := "/_settings", method := "get", tag := "Settings", id := "get_settings"
    summary := "Current live settings."
    replies := [⟨200, "Current settings", some "SettingsSnapshot"⟩] },
  { path := "/_settings", method := "put", tag := "Settings", id := "update_settings"
    summary := "Apply a partial settings update. Takes effect for the next request."
    request := some "SettingsUpdate"
    replies := [⟨200, "Settings after the update", some "SettingsSnapshot"⟩] },
  { path := "/_adwatch/detectors/\x7bdetector_id\x7d/preview", method := "post"
    tag := "Detectors", id := "preview_detector", hasId := true
    summary := "Preview a stored detector (or an inline one) over a window."
    request := some "ExecutionInputBody"
    replies := previewReplies "Unknown detector" },
  { path := "/_adwatch/detectors/preview", method := "post"
    tag := "Detectors", id := "preview_inline"
    summary := "Preview without a path id, normally with an inline detector."
    request := some "ExecutionInputBody"
    replies := previewReplies "No detector id and no inline detector" },
  { path := "/_adwatch/detectors/\x7bdetector_id\x7d/run", method := "post"
    tag := "Detectors", id := "run_detector", hasId := true
    summary := "Run a stored detector through the anomaly-result action."
    request := some "ExecutionInputBody"
    replies := [
      ⟨200, "Latest bucket result", some "AnomalyResultResponse"⟩,
      ⟨400, "Invalid request", some "ErrorResponse"⟩,
      ⟨404, "Unknown detector", some "ErrorResponse"⟩,
      ⟨500, "Execution failed", some "ErrorResponse"⟩] }]

-- The tags with what they stand for.
def tags : List (String × String) :=
  [("Health", "Server liveness"),
   ("Settings", "Live detection settings"),
   ("Detectors", "Detector preview and run")]

-- The operations of each path.
def paths : List (String × Json) :=
  ((operations.map (·.path)).eraseDups).map fun path =>
    (path, .object ((operations.filter (·.path == path)).map fun o => (o.method, o.toJson)))

-- The description of the service. Detector routes stand in it under the default base path.
def document : Json :=
  .object [
    ("openapi", .string "3.1.0"),
    ("info", .object [
      ("title", .string "adwatch API"),
      ("description", .string "Anomaly detector preview and run endpoints."),
      ("license", .object [("name", .string "")]),
      ("version", .string version)]),
    ("paths", .object paths),
    ("components", .object [("schemas", .object (schemas.map fun s => (s.name, s.toJson)))]),
    ("tags", .array (tags.map fun (name, note) =>
      .object [("name", .string name), ("description", .string note)]))]

end AnomalyDetection.OpenApi
