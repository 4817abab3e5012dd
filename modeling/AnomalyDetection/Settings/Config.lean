import AnomalyDetection.Decimal.Numeral
import AnomalyDetection.Files.System
import AnomalyDetection.Decimal.Shortest
import AnomalyDetection.Settings.Live
import AnomalyDetection.Text.Terminal
import AnomalyDetection.Text.Upper

namespace AnomalyDetection

abbrev Environment := List (String × String)

structure Config where
  profile : String
  host : String
  port : Nat
  corsOrigin : String
  basePath : String
  dataDir : String
  enabled : Bool
  maxFeatures : UInt64
  timeoutSeconds : UInt64
  threshold : Float
  maxBuckets : UInt64

namespace Environment

-- A variable that is set and not empty.
def given? (env : Environment) (key : String) : Option String :=
  (env.lookup key).filter (· ≠ "")

-- The variable under a profile.
def profiled? (env : Environment) (profile key : String) : Option String :=
  if profile = "" then env.given? key
  else (env.given? (profile ++ "_" ++ key)).or (env.given? key)

-- The value of a variable, which a profile may overrule. An empty one counts as unset, and one that
-- cannot be read as the default.
def read (env : Environment) (profile key : String) (parse : List Char → Option α) (default : α) :
    α :=
  ((env.profiled? profile key).bind fun s => parse s.toList).getD default

end Environment

-- A switch is on for four words, in any case of ASCII letters, and off for all others.
def readSwitch (s : List Char) : Bool :=
  let s := s.map Char.toLower
  s == "true".toList || s == "1".toList || s == "yes".toList || s == "on".toList

-- A leading slash, and none at the end.
def normalBasePath (s : List Char) : List Char :=
  let s := ((Text.trim s).reverse.dropWhile (· == '/')).reverse
  match s with
  | '/' :: _ => s
  | _ => '/' :: s

namespace Config

-- The configuration of a profile; the empty one stands for none.
def ofProfile (env : Environment) (profile : String) : Config :=
  let profile := Text.upper profile
  let text (key default : String) := (env.profiled? profile key).getD default
  let word (key : String) (default : UInt64) : UInt64 :=
    env.read profile key (fun s => (Decimal.unsigned? UInt64.size s).map UInt64.ofNat) default
  { profile
    host := text "HOST" "0.0.0.0"
    port := env.read profile "PORT" (Decimal.unsigned? UInt16.size) 9250
    corsOrigin := text "CORS_ORIGIN" "*"
    basePath := String.ofList <|
      normalBasePath (text "ADWATCH_BASE_PATH" "/_adwatch/detectors").toList
    dataDir := text "DATA_DIR" "data"
    enabled := env.read profile "ADWATCH_ENABLED" (some ∘ readSwitch) true
    maxFeatures := word "ADWATCH_MAX_ANOMALY_FEATURES" 5
    timeoutSeconds := word "ADWATCH_REQUEST_TIMEOUT_SECS" 10
    threshold := env.read profile "ADWATCH_ANOMALY_THRESHOLD" Decimal.float? 3
    maxBuckets := word "ADWATCH_MAX_BUCKETS" 10000 }

-- The configuration of the profile that the environment names.
def ofEnvironment (env : Environment) : Config :=
  ofProfile env (Text.upper ((env.lookup "ADWATCH_PROFILE").getD ""))

def profileLabel (c : Config) : String :=
  if c.profile = "" then "default" else c.profile

-- The directory of the stored detectors.
def detectorsDir (c : Config) : String := Files.join c.dataDir "detectors"

-- The directory of the time series.
def seriesDir (c : Config) : String := Files.join c.dataDir "series"

def settings (c : Config) : Settings :=
  .ofTimeout c.enabled c.maxFeatures c.timeoutSeconds.toNat 0

-- What the log says at the start.
def summary (c : Config) : List String :=
  ["Config loaded (profile: " ++ c.profileLabel ++ "):",
   "  server:     " ++ c.host ++ ":" ++ toString c.port ++ " base=" ++ c.basePath,
   "  storage:    data_dir=" ++ c.dataDir,
   "  detection:  enabled=" ++ (if c.enabled then "true" else "false") ++
     ", max_features=" ++ toString c.maxFeatures.toNat ++
     ", timeout=" ++ toString c.timeoutSeconds.toNat ++
     "s, threshold=" ++ String.ofList (Decimal.Layout.plain.float c.threshold)]

-- The lines of the log that show the summary. A message ends its line; a line feed in a value ends
-- one before.
def log (c : Config) : List String :=
  c.summary.flatMap fun s =>
    (Text.lines ((Text.forTerminal s).toList ++ ['\n'])).map String.ofList

end Config
end AnomalyDetection
