import AnomalyDetection.Json.Reader

namespace AnomalyDetection.Http

-- The octet that `%` and two hexadecimal digits stand for.
def percentOctet? (a b : UInt8) : Option UInt8 := do
  let x ← Json.Reader.hexDigit? (Char.ofNat a.toNat)
  let y ← Json.Reader.hexDigit? (Char.ofNat b.toNat)
  return UInt8.ofNat (16 * x + y)

-- A `%` without two hexadecimal digits behind it stays as it is.
def percentDecode : Octets → Octets
  | [] => []
  | 0x25 :: a :: b :: rest =>
    match percentOctet? a b with
    | some o => o :: percentDecode rest
    | none => 0x25 :: percentDecode (a :: b :: rest)
  | o :: rest => o :: percentDecode rest

-- The text of a path segment, if it is one once decoded.
def segmentText? (segment : List Char) : Option String :=
  (Text.text? (percentDecode (Text.encode segment))).map String.ofList

end AnomalyDetection.Http
