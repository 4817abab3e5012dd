import AnomalyDetection.Detector.Interval
import AnomalyDetection.Engine.Buckets
import AnomalyDetection.Files.System
import AnomalyDetection.Json.Printer

namespace AnomalyDetection

-- What is wrong with the query of a feature.
inductive Feature.Fault
  | notOneAggregation
  | notOneOperator
  | unknownOperator (name : String)
  | noField

def Feature.Fault.message : Fault → String
  | notOneAggregation => "aggregation query must have exactly one named aggregation"
  | notOneOperator => "aggregation must hold exactly one operator"
  | unknownOperator name => "unsupported aggregation '" ++ name ++ "'"
  | noField => "aggregation needs a 'field'"

-- Why a detector cannot be executed.
inductive Detector.Fault
  | interval (fault : Interval.Fault)
  | noInterval
  | feature (name : String) (fault : Feature.Fault)

def Detector.Fault.message : Fault → String
  | interval fault => fault.message
  | noInterval => "detection interval must be positive"
  | feature name fault => "feature '" ++ name ++ "': " ++ fault.message

inductive Engine.Fault
  | invalidDetector (fault : Detector.Fault)
  | noEnabledFeatures
  | windowTooShort
  | tooManyBuckets (count limit : Nat)
  | unsupportedFilter (query : Json)
  | file (fault : FileFault)
  | source (message : String)

namespace Engine.Fault

def message : Fault → String
  | invalidDetector fault => "Invalid detector: " ++ fault.message
  | noEnabledFeatures => "Detector has no enabled features"
  | windowTooShort => "Execution window is shorter than one detection interval"
  | tooManyBuckets count limit =>
    "Execution window spans " ++ toString count ++ " intervals, limit is " ++ toString limit
  | unsupportedFilter query => "Unsupported filter query: " ++ query.text
  | file fault => "IO error: " ++ fault.message
  | source message => "Feature source failed: " ++ message

def ofBuckets : Buckets.Fault → Fault
  | .noInterval => .invalidDetector .noInterval
  | .windowTooShort => .windowTooShort
  | .tooMany count limit => .tooManyBuckets count limit

end Engine.Fault
end AnomalyDetection
