import AnomalyDetection.Decimal.Integer

namespace AnomalyDetection.Decimal

-- The double nearest to `m · 10 ^ e`.
def nearest (m : Nat) (e : Int) : Float :=
  if e < 0 then Float.ofScientific m true e.natAbs else Float.ofScientific m false e.natAbs

-- The exponent behind the digits, zero if there is none.
def exponent? : List Char → Option Int
  | [] => some 0
  | c :: s =>
    if c = 'e' ∨ c = 'E' then
      match s with
      | '+' :: s => (natural? s).map Int.ofNat
      | '-' :: s => (natural? s).map fun n => -(n : Int)
      | s => (natural? s).map Int.ofNat
    else none

-- A numeral without its sign.
def magnitude? (s : List Char) : Option Float := do
  let (whole, s) := spanDigits s
  let (fraction, s) := match s with
    | '.' :: s => spanDigits s
    | s => ([], s)
  if whole = [] ∧ fraction = [] then none
  else
    let e ← exponent? s
    some (nearest (ofDigits (whole ++ fraction)) (e - fraction.length))

-- The doubles that words stand for.
def word? (s : List Char) : Option Float :=
  let s := s.map Char.toLower
  if s = "inf".toList ∨ s = "infinity".toList then some (1 / 0)
  else if s = "nan".toList then some (0 / 0)
  else none

def unsignedFloat? (s : List Char) : Option Float :=
  (magnitude? s).or (word? s)

def float? : List Char → Option Float
  | '+' :: s => unsignedFloat? s
  | '-' :: s => (unsignedFloat? s).map fun x => -x
  | s => unsignedFloat? s

end AnomalyDetection.Decimal
