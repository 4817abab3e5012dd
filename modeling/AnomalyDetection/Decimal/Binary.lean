namespace AnomalyDetection.Decimal

-- A finite double as an exact number, `± mantissa · 2 ^ exponent`.
structure Binary where
  negative : Bool
  mantissa : Nat
  exponent : Int
  -- Whether the doubles below are only half as far away as those above.
  narrowBelow : Bool
  deriving DecidableEq

namespace Binary

-- The parts of a finite double; none for the infinities and for what is no number.
def ofFloat? (x : Float) : Option Binary :=
  let bits := x.toBits.toNat
  let negative := bits >>> 63 == 1
  let biased : Nat := bits >>> 52 % 2048
  let fraction := bits % (1 <<< 52)
  if biased = 2047 then none
  else if biased = 0 then some ⟨negative, fraction, -1074, false⟩
  else some ⟨negative, 1 <<< 52 + fraction, (biased : Int) - 1075, fraction == 0 && biased != 1⟩

-- The number without its fraction part.
def truncate (b : Binary) : Int :=
  let n : Nat := match b.exponent with
    | .ofNat e => b.mantissa <<< e
    | .negSucc e => b.mantissa >>> (e + 1)
  if b.negative then -(n : Int) else n

end Binary

-- The whole part of a double, moved to the nearer end of the 64-bit integers where it lies outside
-- of them. What is no number counts as zero.
def saturate (x : Float) : Int :=
  match Binary.ofFloat? x with
  | some b => max Int64.minValue.toInt (min Int64.maxValue.toInt b.truncate)
  | none => if x.isNaN then 0 else if x < 0 then Int64.minValue.toInt else Int64.maxValue.toInt

end AnomalyDetection.Decimal
