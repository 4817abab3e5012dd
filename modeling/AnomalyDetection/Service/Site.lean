import AnomalyDetection.Http.MediaType
import AnomalyDetection.OpenApi.Document
import AnomalyDetection.Service.Dispatch
import AnomalyDetection.Service.Endpoint
import AnomalyDetection.Version

namespace AnomalyDetection.Service

-- Where the detectors are, as a pattern may say it, and whose pages may read the answers.
structure Site where
  basePath : String
  origin : String

-- The longest body that is read, in octets.
def bodyLimit : Nat := 2097152

-- The origin that answers name: the site's own, if it can stand in a header, and else any. Only
-- control characters cannot.
def Site.allowedOrigin (site : Site) : String :=
  if site.origin.toList.all fun c => (32 ≤ c.toNat && c.toNat != 127) || c == '\t' then site.origin
  else "*"

-- A response as pages from elsewhere may read it.
def Site.share (site : Site) (response : Http.Response) : Http.Response :=
  response.withHeaders [("access-control-allow-origin", site.allowedOrigin)]

def tooLong : Http.Response :=
  .text 413 "Failed to buffer the request body: length limit exceeded"

def health (settings : Settings) : Http.Response :=
  .json 200 (.object [
    ("status", .string "ok"),
    ("version", .string version),
    ("detection_enabled", .bool settings.enabled)])

-- Why a body is no update.
def unreadableUpdate (fault : Json.Fault) : Http.Response :=
  if fault.isMalformed then
    .text 400 ("Failed to parse the request body as JSON: " ++ fault.message)
  else
    .text 422 ("Failed to deserialize the JSON body into the target type: " ++
      String.join (fault.places.map (· ++ ": ")) ++ fault.message)

-- Updates the settings from a body that is announced as JSON.
def update (settings : Settings) (r : Http.Request) : Http.Response × Settings :=
  if ((r.header? "content-type").map fun s => Http.MediaType.isJson s.toList) ≠ some true then
    (.text 415 "Expected request with `Content-Type: application/json`", settings)
  else if bodyLimit < r.body.length then (tooLong, settings)
  else match Settings.Update.ofText r.body with
    | .ok u => (.json 200 (settings.apply u).toJson, settings.apply u)
    | .error e => (unreadableUpdate e, settings)

-- Executes a detector; `path` holds the parameters of a path that has an id, which must then be the
-- only one.
def serveDetector [Monad m] (c : Collaborators m) (settings : Settings)
    (path : Option (List Http.Parameter)) (r : Http.Request) : m Http.Response :=
  match path.mapM Http.Parameter.single with
  | .error e => return e.response
  | .ok id =>
    if bodyLimit < r.body.length then return tooLong
    else dispatch c settings id r.path r.body

-- The answer of an endpoint to one of its methods, and the settings after it. Only updates change
-- the settings.
def serve [Monad m] (c : Collaborators m) (settings : Settings) (r : Http.Request) :
    Endpoint → m (Http.Response × Settings)
  | .health => return (health settings, settings)
  | .openApi => return (.json 200 OpenApi.document, settings)
  | .settings =>
    if r.method = "PUT" then return update settings r
    else return (.json 200 settings.toJson, settings)
  | e => do return (← serveDetector c settings e.parameters? r, settings)

-- The answer of an endpoint to any request, and the settings after it. Requests for detectors are
-- refused while detection is disabled, before anything else about them is looked at.
def answer [Monad m] (c : Collaborators m) (settings : Settings) (r : Http.Request) (e : Endpoint) :
    m (Http.Response × Settings) := do
  let allowed := r.method ∈ e.methods
  let (response, settings) ←
    if e.executes ∧ ¬ settings.enabled then pure (Refusal.disabled.response, settings)
    else if allowed then serve c settings r e
    else pure (.empty 405, settings)
  let response := if allowed then response else response.withHeaders [("allow", e.allow)]
  return (if r.method = "HEAD" then response.withoutBody else response, settings)

-- What an endpoint allows.
def options (e : Endpoint) : Http.Response :=
  (Http.Response.empty 200).withHeaders
    [("allow", e.allow), ("access-control-allow-methods", "*")]

-- The answer to a request, and the settings after it.
def respond [Monad m] (c : Collaborators m) (site : Site) (settings : Settings)
    (r : Http.Request) : m (Http.Response × Settings) :=
  match Endpoint.ofPath? (.ofText site.basePath.toList) r.path with
  | none => return (.empty 404, settings)
  | some e =>
    if r.method = "OPTIONS" then return (site.share (options e), settings)
    else do
      let (response, settings) ← answer c settings r e
      return (site.share response, settings)

end AnomalyDetection.Service
