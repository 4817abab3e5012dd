import AnomalyDetection.Http.Pattern

namespace AnomalyDetection.Service

-- An endpoint. Stored detectors come with the parameters of their path, the id last.
inductive Endpoint
  | health
  | settings
  | openApi
  | previewInline
  | preview (path : List Http.Parameter)
  | run (path : List Http.Parameter)
  deriving DecidableEq

namespace Endpoint

-- The endpoint below the base path, whose own parameters are `around`. Its last segment says what
-- is done with the detector.
def ofSegments? (around : List Http.Parameter) : List (List Char) → Option Endpoint
  | [last] => if last = "preview".toList then some previewInline else none
  | [id, last] =>
    let path := around ++ [⟨"detector_id".toList, id⟩]
    if last = "preview".toList then some (preview path)
    else if last = "run".toList then some (run path)
    else none
  | _ => none

-- The endpoint of a path. Segments are compared as they were sent, and an id may be empty. The page
-- at `/docs`, which only shows the document of `/openapi.json`, is no endpoint here.
def ofPath? (base : Http.Pattern) (path : List Char) : Option Endpoint :=
  if path = "/health".toList then some health
  else if path = "/_settings".toList then some settings
  else if path = "/openapi.json".toList then some openApi
  else (base.front? (Text.split '/' path)).bind fun (around, rest) => ofSegments? around rest

-- The methods an endpoint answers to.
def methods : Endpoint → List String
  | health => ["GET", "HEAD"]
  | settings => ["GET", "HEAD", "PUT"]
  | openApi => ["GET", "HEAD"]
  | _ => ["POST"]

-- The value of the `allow` header.
def allow (e : Endpoint) : String :=
  ",".intercalate e.methods

-- Whether an endpoint executes detectors.
def executes : Endpoint → Bool
  | previewInline => true
  | preview _ => true
  | run _ => true
  | _ => false

-- The parameters of a path that has an id in it.
def parameters? : Endpoint → Option (List Http.Parameter)
  | preview path => some path
  | run path => some path
  | _ => none

end Endpoint
end AnomalyDetection.Service
