import AnomalyDetection.Engine.Fault
import AnomalyDetection.Engine.Field

namespace AnomalyDetection

inductive Filter
  | all
  -- Every field has to hold its value.
  | terms (ts : List (String × Json))

namespace Filter

-- The filter that a query stands for; no query takes all rows.
def ofQuery : Option Json → Except Engine.Fault Filter
  | none => .ok .all
  | some query =>
    if (query.member? "match_all").isSome then .ok .all
    else match query.member? "term" with
      | some (.object ts) => .ok (.terms ts)
      | _ => .error (.unsupportedFilter query)

def accepts (f : Filter) (row : Json) : Bool :=
  match f with
  | all => true
  | terms ts => ts.all fun (path, expected) =>
    match row.field? path with
    | some j => j.same expected
    | none => false

end Filter
end AnomalyDetection
