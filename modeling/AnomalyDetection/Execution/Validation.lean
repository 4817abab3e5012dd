import AnomalyDetection.Execution.Input
import AnomalyDetection.Execution.Route

namespace AnomalyDetection

-- What a valid request asks for.
inductive Execution.Plan
  | run (id : String) (start stop : Instant)
  | preview (id : Option String) (start stop : Instant)
  deriving DecidableEq

-- Why the input of a request is not valid.
inductive Execution.InputProblem
  | noId
  | noWindow
  | emptyWindow
  deriving DecidableEq

def Execution.InputProblem.message : InputProblem → String
  | noId => "Must set anomaly detector id"
  | noWindow => "Must set both period start and end date with epoch of milliseconds"
  | emptyWindow => "Period start date should be before end date"

namespace Execution.Input

-- The window, whose start has to lie before its end.
def checkedWindow (i : Input) : Except InputProblem (Instant × Instant) :=
  match i.window? with
  | none => .error .noWindow
  | some (start, stop) => if start < stop then .ok (start, stop) else .error .emptyWindow

-- What the input asks for on a route.
def plan (i : Input) : Route → Except InputProblem Plan
  | .run =>
    match i.givenId? with
    | none => .error .noId
    | some id => do
      let (start, stop) ← i.checkedWindow
      return .run id start stop
  | .preview => do
    let (start, stop) ← i.checkedWindow
    return .preview i.givenId? start stop

end Execution.Input

-- Why an inline detector cannot be previewed.
inductive Detector.Problem
  | noFeatures
  | tooManyFeatures (limit : UInt64)
  -- Names of several features, and aggregation names of several features, each list sorted.
  | repeatedNames (names aggregations : List String)
  deriving DecidableEq

namespace Detector

def Problem.message : Problem → String
  | noFeatures => "Can't preview detector without feature"
  | tooManyFeatures limit => "Can't create anomaly features more than " ++ toString limit.toNat
  | repeatedNames names aggregations =>
    let part (title : String) (xs : List String) : List String :=
      if xs = [] then [] else [title ++ ", ".intercalate xs]
    ". ".intercalate
      (part "Detector has duplicate feature names: " names ++
       part "Detector has duplicate feature aggregation query names: " aggregations)

-- The names met so far and those met again, both sorted and without repetition.
structure Census where
  seen : List String
  again : List String

namespace Census

-- A sorted list with one more name, unless it is there.
def insert (x : String) : List String → List String
  | [] => [x]
  | y :: ys => if x < y then x :: y :: ys else if x = y then y :: ys else y :: insert x ys

def add (c : Census) (x : String) : Census :=
  if x ∈ c.seen then { c with again := insert x c.again } else { c with seen := insert x c.seen }

def of (xs : List String) : Census :=
  xs.foldl add ⟨[], []⟩

end Census

-- The first problem of a detector, if it has any.
def problem? (d : Detector) (limit : UInt64) : Option Problem :=
  if d.features = [] then some .noFeatures
  else if limit.toNat < d.features.length then some (.tooManyFeatures limit)
  else
    let names := (Census.of (d.features.map (·.name))).again
    let aggregations := (Census.of (d.features.filterMap (·.aggregationName?))).again
    if names = [] ∧ aggregations = [] then none else some (.repeatedNames names aggregations)

end Detector
end AnomalyDetection
