import AnomalyDetection.Detector.Basic
import AnomalyDetection.Engine.Accumulator
import AnomalyDetection.Engine.Fault
import AnomalyDetection.Engine.Field

namespace AnomalyDetection

-- What a feature's query asks for.
structure Aggregation where
  name : String
  operator : Operator
  field : String
  deriving DecidableEq

namespace Aggregation

-- The aggregation of a query `{ name: { operator: { "field": path } } }`.
def ofQuery (query : Json) : Except Feature.Fault Aggregation :=
  match query with
  | .object [(name, body)] =>
    match body with
    | .object [(operator, parameters)] =>
      match Operator.ofName? operator with
      | none => .error (.unknownOperator operator)
      | some operator =>
        match parameters.member? "field" with
        | some (.string field) => .ok ⟨name, operator, field⟩
        | _ => .error .noField
    | _ => .error .notOneOperator
  | _ => .error .notOneAggregation

def ofFeature (f : Feature) : Except Engine.Fault Aggregation :=
  (ofQuery f.query).mapError fun e => .invalidDetector (.feature f.name e)

-- What a row shows at the aggregation's field.
def observation? [Quantity α] (a : Aggregation) (row : Json) : Option (Observation α) :=
  (row.field? a.field).map fun j =>
    match j.numeric? with
    | some x => .number (Quantity.ofFloat x)
    | none => .present

end Aggregation
end AnomalyDetection
