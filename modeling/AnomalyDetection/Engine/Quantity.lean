namespace AnomalyDetection

-- The arithmetic that aggregation and scoring need. Doubles are the quantities of the running
-- program. The computation itself is written once, for any quantities, so that its laws can be
-- looked at in exact arithmetic too.
class Quantity (α : Type) extends Add α, Sub α, Mul α, Div α where
  ofFloat : Float → α
  ofNat : Nat → α
  sqrt : α → α
  abs : α → α
  lt : α → α → Bool
  le : α → α → Bool
  -- Of two quantities the lesser and the greater one; what is no number gives way.
  lesser : α → α → α
  greater : α → α → α
  -- The least deviation that is told from none.
  epsilon : α

namespace Quantity

-- The distance from one to the next double.
def floatEpsilon : Float := Float.ofBits 0x3CB0000000000000

instance : Quantity Float where
  ofFloat x := x
  ofNat n := (UInt64.ofNat n).toFloat
  sqrt := Float.sqrt
  abs := Float.abs
  lt x y := x < y
  le x y := x ≤ y
  lesser x y := if y.isNaN || x < y then x else y
  greater x y := if y.isNaN || y < x then x else y
  epsilon := floatEpsilon

-- The quantity, moved to the nearer of two limits if it lies outside of them.
def clamp [Quantity α] (x low high : α) : α :=
  if lt x low then low else if lt high x then high else x

end Quantity
end AnomalyDetection
