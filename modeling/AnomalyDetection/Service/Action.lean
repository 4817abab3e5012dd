import AnomalyDetection.Engine.Score
import AnomalyDetection.Store.Basic

namespace AnomalyDetection

namespace Action

structure Request where
  id : String
  startMillis : Int
  stopMillis : Int
  deriving DecidableEq

structure Response where
  grade : Float
  confidence : Float
  score : Float
  start : Option Instant
  stop : Option Instant
  features : List (FeatureData Float)
  error : Option String

inductive Fault
  | noId
  | badTimestamp (e : BadTimestamp)
  | emptyWindow
  | unknownDetector (id : String)
  | store (fault : Store.Fault)
  | corruptDetector (fault : DocumentFault)
  | engine (fault : Engine.Fault)

namespace Fault

def message : Fault → String
  | noId => "Must set anomaly detector id"
  | badTimestamp e => e.message
  | emptyWindow => "Period start date should be before end date"
  | unknownDetector id => Store.unknownMessage id
  | store fault => "Detector lookup failed: " ++ fault.message
  | corruptDetector fault => "Stored detector is unreadable: " ++ fault.message
  | engine fault => "Detection failed: " ++ fault.message

def status : Fault → Nat
  | noId => 400
  | badTimestamp _ => 400
  | emptyWindow => 400
  | unknownDetector _ => 404
  | _ => 500

end Fault

namespace Response

-- The answer that shows a result.
def ofResult (r : AnomalyResult Float) : Response where
  grade := r.grade
  confidence := r.confidence
  score := r.score
  start := some r.start
  stop := some r.stop
  features := r.features
  error := r.error

-- The answer when there is no bucket.
def noData : Response where
  grade := 0
  confidence := 0
  score := 0
  start := none
  stop := none
  features := []
  error := some "No data in the requested window"

def toJson (r : Response) : Json :=
  .object <|
    [("anomaly_grade", Json.number (.float r.grade)),
     ("confidence", .number (.float r.confidence)),
     ("anomaly_score", .number (.float r.score))] ++
    (r.start.map fun t => ("data_start_time", t.toJson)).toList ++
    (r.stop.map fun t => ("data_end_time", t.toJson)).toList ++
    [("feature_data", .array (r.features.map FeatureData.toJson))] ++
    (r.error.map fun x => ("error", Json.string x)).toList

end Response

-- What a request has to be before a store is asked: its id without blanks around it, and a window
-- that is not empty.
def Request.check (r : Request) : Except Fault (String × Instant × Instant) := do
  let id := Text.trim r.id.toList
  if id = [] then throw .noId
  let start ← (Instant.ofMillis r.startMillis).mapError .badTimestamp
  let stop ← (Instant.ofMillis r.stopMillis).mapError .badTimestamp
  if start < stop then return (String.ofList id, start, stop) else throw .emptyWindow

-- Runs a request. A store answers to `lookup`, an engine to `detect`.
def run [Monad m]
    (lookup : Store.Authority → String → m (Except Store.Fault Store.Answer))
    (detect : Detector → Instant → Instant → m (Except Engine.Fault (List (AnomalyResult Float))))
    (r : Request) : m (Except Fault Response) := do
  match r.check with
  | .error e => return .error e
  | .ok (id, start, stop) =>
    match ← lookup .system id with
    | .error e => return .error (.store e)
    | .ok answer =>
      match answer.document? with
      | none => return .error (.unknownDetector id)
      | some source =>
        match Detector.ofDocument source id answer.version with
        | .error e => return .error (.corruptDetector e)
        | .ok d =>
          match ← detect d start stop with
          | .error e => return .error (.engine e)
          | .ok results => return .ok ((results.getLast?.map Response.ofResult).getD .noData)

end Action
end AnomalyDetection
