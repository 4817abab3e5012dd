namespace AnomalyDetection

inductive Execution.Route
  -- Evaluates a detector, inline or stored, and shows every bucket.
  | preview
  -- Executes a stored detector and answers with the latest bucket.
  | run
  deriving DecidableEq

namespace Execution.Route

def name : Route → String
  | preview => "preview"
  | run => "run"

-- What stands behind the last slash, slashes at the very end left aside.
def lastSegment (path : List Char) : List Char :=
  ((path.reverse.dropWhile (· == '/')).takeWhile (· != '/')).reverse

-- The route that the last segment of a path names.
def ofPath? (path : List Char) : Option Route :=
  let last := lastSegment path
  if last = preview.name.toList then some preview
  else if last = run.name.toList then some run
  else none

end Execution.Route
end AnomalyDetection
