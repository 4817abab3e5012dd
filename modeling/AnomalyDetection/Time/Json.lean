import AnomalyDetection.Time.Reader
import AnomalyDetection.Time.Written
import AnomalyDetection.Json.Decode
import AnomalyDetection.Json.Printer

namespace AnomalyDetection

-- A timestamp that stands for no instant, as it was given.
structure BadTimestamp where
  given : String

def BadTimestamp.message (e : BadTimestamp) : String :=
  "Invalid timestamp: " ++ e.given

namespace Instant

-- The instant of a count of milliseconds.
def ofMillis (ms : Int) : Except BadTimestamp Instant :=
  match ofEpochMillis? ms with
  | some t => .ok t
  | none => .error ⟨String.ofList (Decimal.integer ms)⟩

def ofTimestampText (s : List Char) : Except BadTimestamp Instant :=
  let s := Text.trim s
  match Decimal.signed? (UInt64.size / 2) s with
  | some ms => ofMillis ms
  | none =>
    match ofText? s with
    | some t => .ok t
    | none => .error ⟨String.ofList s⟩

-- A timestamp is a count of milliseconds since 1970, as a number or in digits, or a strict text.
def ofTimestamp : Json → Except BadTimestamp Instant
  | .number n => ofMillis (n.toInt?.getD (Decimal.saturate n.toFloat))
  | .string s => ofTimestampText s.toList
  | j => .error ⟨j.text⟩

def toJson (t : Instant) : Json := .string t.text

end Instant

namespace Json.Decoder

def instant : Decoder Instant
  | _, .string (some s) =>
    (Instant.ofLooseText s.toList).mapError fun f => .refused f.message
  | _, d => .error (mismatch d "an RFC 3339 formatted date and time string")

-- A timestamp that may be missing.
def timestamp : Decoder (Option Instant) := fun s d => do
  match ← optional value s d with
  | none => return none
  | some j => (Instant.ofTimestamp j).map some |>.mapError fun e => .refused e.message

end Json.Decoder
end AnomalyDetection
