import AnomalyDetection.Json.Basic
import AnomalyDetection.Text.Split
import AnomalyDetection.Text.Blank
import AnomalyDetection.Decimal.Numeral

namespace AnomalyDetection.Json

-- The keys of a dotted path.
def pathKeys (path : String) : List String :=
  (Text.split '.' path.toList).map String.ofList

-- Down through objects, a key at a time.
def descend? (j : Json) : List String → Option Json
  | [] => some j
  | key :: keys => (j.member? key).bind (·.descend? keys)

-- The value at a dotted path, if it is there and not null.
def field? (row : Json) (path : String) : Option Json :=
  (row.descend? (pathKeys path)).filter (!·.isNull)

-- The value as a number. Numerals in strings count, with blanks around them.
def numeric? : Json → Option Float
  | number n => some n.toFloat
  | string s => Decimal.float? (Text.trim s.toList)
  | _ => none

end AnomalyDetection.Json
