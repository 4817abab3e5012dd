import AnomalyDetection.Detector.Form

namespace AnomalyDetection

-- What a request asks to evaluate, and over which window.
structure Execution.Input where
  detectorId : Option String
  detector : Option Detector
  start : Option Instant
  stop : Option Instant
  deriving DecidableEq

namespace Execution.Input

open Json (Shape Decoder)

def shape : Shape Input where
  name := "ExecutionInputBody"
  blank := ⟨none, none, none, none⟩
  fields := [
    .defaulted "detector_id" (Decoder.optional Decoder.string)
      fun x i => { i with detectorId := x },
    .defaulted "detector" (Decoder.optional Detector.shape.decode)
      fun x i => { i with detector := x },
    .defaulted "period_start" Decoder.timestamp fun x i => { i with start := x },
    .defaulted "period_end" Decoder.timestamp fun x i => { i with stop := x }]

-- The input in a request body. An id in the path takes the place of the body's.
def ofBody (body : Octets) (pathId : Option String) : Except DocumentFault Input :=
  (shape.ofDocument body).map fun i =>
    match pathId with
    | some id => { i with detectorId := some id }
    | none => i

-- The id, unless it is blank.
def givenId? (i : Input) : Option String :=
  i.detectorId.filter fun id => !Text.allBlank id.toList

-- Both ends of the window, if both are given.
def window? (i : Input) : Option (Instant × Instant) := do
  return (← i.start, ← i.stop)

-- The inline detector, and the input without it.
def takeDetector (i : Input) : Option Detector × Input :=
  (i.detector, { i with detector := none })

end Execution.Input
end AnomalyDetection
