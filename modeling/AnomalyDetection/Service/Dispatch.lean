import AnomalyDetection.Execution.Validation
import AnomalyDetection.Http.Message
import AnomalyDetection.Service.Action
import AnomalyDetection.Settings.Live

namespace AnomalyDetection

namespace Service

-- Those whom a request may need, in any monad that their work takes.
structure Collaborators (m : Type → Type) where
  lookup : Store.Authority → String → m (Except Store.Fault Store.Answer)
  detect : Detector → Instant → Instant → m (Except Engine.Fault (List (AnomalyResult Float)))
  act : Action.Request → m (Except Action.Fault Action.Response)

-- The collaborators around a store and an engine, with the result action between them.
def Collaborators.around [Monad m]
    (lookup : Store.Authority → String → m (Except Store.Fault Store.Answer))
    (detect : Detector → Instant → Instant → m (Except Engine.Fault (List (AnomalyResult Float)))) :
    Collaborators m :=
  ⟨lookup, detect, Action.run lookup detect⟩

-- Why an execution request is refused before it reaches the engine.
inductive Refusal
  | disabled
  | noRoute (path : String)
  | unreadable (fault : DocumentFault)
  | invalidInput (problem : Execution.InputProblem)
  | invalidDetector (problem : Detector.Problem)
  | noDetectorId
  | unknownDetector (id : String)
  | store (fault : Store.Fault)
  | corruptDetector (fault : DocumentFault)

namespace Refusal

def message : Refusal → String
  | disabled => "Anomaly detection is disabled. To enable update adwatch.enabled to true"
  | noRoute path => "No execution route for " ++ path
  | unreadable fault => fault.message
  | invalidInput problem => problem.message
  | invalidDetector problem => problem.message
  | noDetectorId => "Wrong input, no detector id"
  | unknownDetector id => Store.unknownMessage id
  | store fault => fault.message
  | corruptDetector fault => fault.message

def status : Refusal → Nat
  | unreadable _ => 400
  | invalidInput _ => 400
  | invalidDetector _ => 400
  | noRoute _ => 404
  | noDetectorId => 404
  | unknownDetector _ => 404
  | disabled => 500
  | store _ => 500
  | corruptDetector _ => 500

def response (r : Refusal) : Http.Response :=
  .error r.status r.message

end Refusal

-- The stored detector of an id.
def resolve [Monad m]
    (lookup : Store.Authority → String → m (Except Store.Fault Store.Answer))
    (id : String) : m (Except Refusal Detector) := do
  match ← lookup .system id with
  | .error e => return .error (.store e)
  | .ok answer =>
    match answer.document? with
    | none => return .error (.unknownDetector id)
    | some source =>
      return (Detector.ofDocument source id answer.version).mapError .corruptDetector

-- The answer to a preview: the results with the detector, or after a failure the detector alone.
-- What has no written form is missing from the arguments; without even a detector the answer is
-- bare.
def previewResponse (detector : Option Json) (results : Option Json) : Http.Response :=
  match results, detector with
  | some results, some detector =>
    .json 200 (.object [("anomaly_result", results), ("anomaly_detector", detector)])
  | none, some detector => .json 500 (.object [("anomaly_detector", detector)])
  | _, none => .empty 500

-- The answer of the result action as a response.
def actionResponse : Except Action.Fault Action.Response → Http.Response
  | .ok r => .json 200 r.toJson
  | .error e => .error e.status e.message

-- Previews a detector over a window.
def preview [Monad m] (c : Collaborators m) (d : Detector) (start stop : Instant) :
    m Http.Response := do
  match ← c.detect d start stop with
  | .ok results =>
    return previewResponse (some d.toJson) (some (.array (results.map AnomalyResult.toJson)))
  | .error _ => return previewResponse (some d.toJson) none

-- The answer to an execution request: the id in its path, the path itself, and its body. All of it
-- is read and checked before anybody else is asked.
def dispatch [Monad m] (c : Collaborators m) (settings : Settings) (pathId : Option String)
    (path : List Char) (body : Octets) : m Http.Response := do
  match Execution.Route.ofPath? path with
  | none => return (Refusal.noRoute (String.ofList path)).response
  | some route =>
    match Execution.Input.ofBody body pathId with
    | .error e => return (Refusal.unreadable e).response
    | .ok input =>
      match input.plan route with
      | .error e => return (Refusal.invalidInput e).response
      | .ok (.run id start stop) =>
        return actionResponse (← c.act ⟨id, start.epochMillis, stop.epochMillis⟩)
      | .ok (.preview id start stop) =>
        match input.takeDetector.1 with
        | some d =>
          match d.problem? settings.maxFeatures with
          | some p => return (Refusal.invalidDetector p).response
          | none => preview c d start stop
        | none =>
          match id with
          | none => return Refusal.noDetectorId.response
          | some id =>
            match ← resolve c.lookup id with
            | .error e => return e.response
            | .ok d => preview c d start stop

end Service
end AnomalyDetection
