import AnomalyDetection.Decimal.Integer
import AnomalyDetection.Decimal.Binary

namespace AnomalyDetection.Decimal

-- The positive number `digits · 10 ^ exponent`.
structure Scientific where
  digits : Nat
  exponent : Int
  deriving DecidableEq

-- Which of two equally near decimals is taken.
inductive Tie
  | even
  | larger

namespace Shortest

-- A decimal reads back to a double when it lies between the midpoints to the neighbouring doubles,
-- the midpoints themselves included iff the mantissa is even. A quarter of the distance to the next
-- double is the unit in which the midpoints are whole, so the value and both midpoints are kept as
-- multiples of `unit = up / down`.
structure Interval where
  value : Nat
  low : Nat
  high : Nat
  closed : Bool
  up : Nat
  down : Nat

def Interval.ofBinary (b : Binary) : Interval where
  value := 4 * b.mantissa
  low := 4 * b.mantissa - if b.narrowBelow then 1 else 2
  high := 4 * b.mantissa + 2
  closed := b.mantissa % 2 == 0
  up := 1 <<< (b.exponent - 2).toNat
  down := 1 <<< (2 - b.exponent).toNat

-- Whether `n · 10 ^ k` lies in the interval; `scale` is `(up · 10 ^ -k, down · 10 ^ k)`.
def Interval.holds (i : Interval) (scale : Nat × Nat) (n : Nat) : Bool :=
  let x := n * scale.2
  if i.closed then i.low * scale.1 ≤ x && x ≤ i.high * scale.1
  else i.low * scale.1 < x && x < i.high * scale.1

def Interval.scale (i : Interval) (k : Int) : Nat × Nat :=
  (i.up * Nat.pow 10 (-k).toNat, i.down * Nat.pow 10 k.toNat)

-- The better one of the value's two neighbours on the grid of multiples of `10 ^ k`, if one lies in
-- the interval.
def Interval.onGrid? (i : Interval) (tie : Tie) (k : Int) : Option Nat :=
  let s := i.scale k
  let below := i.value * s.1 / s.2
  let above := below + 1
  match i.holds s below && below != 0, i.holds s above with
  | true, true =>
    -- Twice the value against the sum of both neighbours tells the nearer one.
    let twice := 2 * (i.value * s.1)
    let middle := (below + above) * s.2
    if twice < middle then some below
    else if middle < twice then some above
    else match tie with
      | .even => if below % 2 = 0 then some below else some above
      | .larger => some above
  | true, false => some below
  | false, true => some above
  | false, false => none

-- The exponent of the value's leading decimal digit.
def Interval.magnitude (i : Interval) (b : Binary) : Int :=
  let guess : Int := ((b.mantissa.log2 : Int) + b.exponent) * 30103 / 100000
  let atLeast (k : Int) : Bool := let s := i.scale k; s.2 ≤ i.value * s.1
  if !atLeast guess then guess - 1
  else if atLeast (guess + 1) then guess + 1
  else guess

-- The first hit on grids of 1, 2, … digits; seventeen always suffice.
def search (i : Interval) (tie : Tie) (magnitude : Int) (count : Nat) : Nat → Scientific
  | 0 => ⟨i.value, 0⟩
  | fuel + 1 =>
    let k := magnitude - count
    match i.onGrid? tie k with
    | some n => ⟨n, k⟩
    | none => search i tie magnitude (count + 1) fuel

end Shortest

-- The shortest decimal of a positive double. Of several the one nearest to the double is taken;
-- which of two equally near ones, the layout says.
def shortest (tie : Tie) (b : Binary) : Scientific :=
  let i := Shortest.Interval.ofBinary b
  Shortest.search i tie (i.magnitude b) 0 18

-- How a double is written.
structure Layout where
  tie : Tie
  -- A point stands in positional notation while its distance from the first digit lies between
  -- these; without limits every number is positional.
  limits : Option (Int × Int)
  -- Whether whole numbers end in `.0`.
  wholeMark : Bool

namespace Layout

-- Machine notation: `1.0`, `0.00001`, `1e+16`, `1.5e-7`.
def scientific : Layout where
  tie := .even
  limits := some (-4, 16)
  wholeMark := true

-- Plain notation: `1`, `0.00001`, `10000000000000000`.
def plain : Layout where
  tie := .larger
  limits := none
  wholeMark := false

def exponentMark (e : Int) : List Char :=
  ['e', if e < 0 then '-' else '+'] ++ natural e.natAbs

-- The digits with the point after the first `point` of them.
def positional (l : Layout) (ds : List Char) (point : Int) : List Char :=
  if point ≤ 0 then "0.".toList ++ List.replicate (-point).toNat '0' ++ ds
  else
    let n := point.toNat
    if ds.length ≤ n then
      ds ++ List.replicate (n - ds.length) '0' ++ if l.wholeMark then ".0".toList else []
    else ds.take n ++ '.' :: ds.drop n

def render (l : Layout) (d : Scientific) : List Char :=
  -- Trailing zeros say nothing, the last grid may have left one.
  let ds := ((natural d.digits).reverse.dropWhile (· == '0')).reverse
  let point := d.exponent + (natural d.digits).length
  match l.limits with
  | some (least, most) =>
    if least ≤ point && point ≤ most then l.positional ds point
    else match ds with
      | [c] => c :: exponentMark (point - 1)
      | c :: rest => c :: '.' :: rest ++ exponentMark (point - 1)
      | [] => []
  | none => l.positional ds point

-- The text of a finite double; `none` for the others.
def float? (l : Layout) (x : Float) : Option (List Char) :=
  (Binary.ofFloat? x).map fun b =>
    let body :=
      if b.mantissa = 0 then '0' :: if l.wholeMark then ".0".toList else []
      else l.render (shortest l.tie b)
    if b.negative then '-' :: body else body

-- The text of any double; words stand for those that are not finite.
def float (l : Layout) (x : Float) : List Char :=
  match l.float? x with
  | some s => s
  | none => if x.isNaN then "NaN".toList else if x < 0 then "-inf".toList else "inf".toList

end Layout
end AnomalyDetection.Decimal
