import AnomalyDetection.Engine.Score
import AnomalyDetection.Service.Site
import AnomalyDetection.Settings.Config
import AnomalyDetection.Store.File

namespace AnomalyDetection.Service

-- The service over the files of its configuration, with the settings that it has by now.
structure Server where
  config : Config
  files : FileSystem
  settings : Settings

namespace Server

-- Starts a server; the directory of the detectors is made if it is missing.
def start (config : Config) (files : FileSystem) : Except Store.Fault Server :=
  (Store.File.create files config.detectorsDir).map fun files => ⟨config, files, config.settings⟩

-- The engine over the time series of a configuration.
def detect (config : Config) (files : FileSystem) (d : Detector) (start stop : Instant) :
    Except Engine.Fault (List (AnomalyResult Float)) :=
  AnomalyDetection.execute (extract files config.seriesDir) config.threshold
    config.maxBuckets.toNat d start stop

-- Those who work for the server, on its files.
def collaborators (config : Config) : Collaborators (StateM FileSystem) :=
  .around (fun _ id files => (Store.File.get files config.detectorsDir id, files))
    (fun d start stop files => (detect config files d start stop, files))

def site (config : Config) : Site :=
  ⟨config.basePath, config.corsOrigin⟩

-- The answer to a request, and the server after it.
def respond (s : Server) (r : Http.Request) : Http.Response × Server :=
  let ((response, settings), files) :=
    Service.respond (collaborators s.config) (site s.config) s.settings r s.files
  (response, { s with files, settings })

-- The answers to requests one after the other, and the server after them.
def respondAll (s : Server) : List Http.Request → List Http.Response × Server
  | [] => ([], s)
  | r :: rs =>
    let (response, s) := s.respond r
    let (responses, s) := s.respondAll rs
    (response :: responses, s)

end Server
end AnomalyDetection.Service
