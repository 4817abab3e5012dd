import AnomalyDetection.Json.Decode

namespace AnomalyDetection

-- The three values that may change while the service runs.
structure Settings where
  enabled : Bool
  maxFeatures : UInt64
  timeoutMillis : UInt64
  deriving DecidableEq

-- A partial update; what it does not name stays as it is.
structure Settings.Update where
  enabled : Option Bool
  maxFeatures : Option UInt64
  timeoutMillis : Option UInt64
  deriving DecidableEq

namespace Settings

-- Settings with a timeout in seconds and nanoseconds. A timeout of more milliseconds than 64 bits
-- hold is cut to the most that they do hold.
def ofTimeout (enabled : Bool) (maxFeatures : UInt64) (seconds nanoseconds : Nat) : Settings where
  enabled
  maxFeatures
  timeoutMillis := UInt64.ofNat (min (seconds * 1000 + nanoseconds / 1000000) (UInt64.size - 1))

-- The timeout as seconds and nanoseconds.
def timeout (s : Settings) : Nat × Nat :=
  (s.timeoutMillis.toNat / 1000, s.timeoutMillis.toNat % 1000 * 1000000)

def apply (s : Settings) (u : Update) : Settings where
  enabled := u.enabled.getD s.enabled
  maxFeatures := u.maxFeatures.getD s.maxFeatures
  timeoutMillis := u.timeoutMillis.getD s.timeoutMillis

def members (s : Settings) : List (String × Json) :=
  [("enabled", .bool s.enabled),
   ("max_anomaly_features", .natural s.maxFeatures),
   ("request_timeout_ms", .natural s.timeoutMillis)]

def toJson (s : Settings) : Json := .object s.members

open Json (Shape Decoder) in
def Update.shape : Shape Update where
  name := "SettingsUpdate"
  blank := ⟨none, none, none⟩
  fields := [
    .defaulted "enabled" (Decoder.optional Decoder.bool) fun x u => { u with enabled := x },
    .defaulted "max_anomaly_features" (Decoder.optional (Decoder.uint64 "usize"))
      fun x u => { u with maxFeatures := x },
    .defaulted "request_timeout_ms" (Decoder.optional (Decoder.uint64 "u64"))
      fun x u => { u with timeoutMillis := x }]

-- The update in a text.
def Update.ofText (text : Octets) : Except Json.Fault Update :=
  Json.decodeText Update.shape.decode (Text.glyphs text)

end Settings
end AnomalyDetection
