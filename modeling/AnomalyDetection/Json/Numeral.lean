import AnomalyDetection.Json.Basic
import AnomalyDetection.Decimal.Integer

namespace AnomalyDetection.Json

-- Where in the literal the reader stands: behind the sign, a leading zero, the whole part, the
-- point, the fraction, the exponent mark, its sign, its digits.
inductive Numeral.Place
  | sign | zero | whole | point | fraction | mark | markSign | power
  deriving DecidableEq

-- A literal as far as it is read, the digits last to first.
structure Numeral where
  place : Numeral.Place
  negative : Bool
  whole : List Nat
  fraction : List Nat
  shrinking : Bool
  power : List Nat

namespace Numeral

-- The literal that starts with this character.
def start? (c : Char) : Option Numeral :=
  if c = '-' then some ⟨.sign, true, [], [], false, []⟩
  else match Decimal.digit? c with
    | some 0 => some ⟨.zero, false, [0], [], false, []⟩
    | some d => some ⟨.whole, false, [d], [], false, []⟩
    | none => none

inductive Step
  | more (n : Numeral)
  | over
  | broken

-- What one more character does to the literal.
def step (n : Numeral) (c : Char) : Step :=
  match n.place, Decimal.digit? c with
  | .sign, some 0 => .more { n with place := .zero, whole := [0] }
  | .sign, some d => .more { n with place := .whole, whole := [d] }
  | .sign, none => .broken
  | .zero, some _ => .broken
  | .zero, none => pointOrMark
  | .whole, some d => .more { n with whole := d :: n.whole }
  | .whole, none => pointOrMark
  | .point, some d => .more { n with place := .fraction, fraction := [d] }
  | .point, none => .broken
  | .fraction, some d => .more { n with fraction := d :: n.fraction }
  | .fraction, none => mark
  | .mark, some d => .more { n with place := .power, power := [d] }
  | .mark, none =>
    if c = '+' then .more { n with place := .markSign }
    else if c = '-' then .more { n with place := .markSign, shrinking := true }
    else .broken
  | .markSign, some d => .more { n with place := .power, power := [d] }
  | .markSign, none => .broken
  | .power, some d => .more { n with power := d :: n.power }
  | .power, none => .over
where
  mark : Step :=
    if c = 'e' ∨ c = 'E' then .more { n with place := .mark } else .over
  pointOrMark : Step :=
    if c = '.' then .more { n with place := .point } else mark

-- `significand · 10 ^ exponent`, and whether every digit of the whole part went into it.
structure Gathered where
  significand : Nat
  exponent : Int
  exact : Bool

def gatherWhole (significand : Nat) : List Nat → Gathered
  | [] => ⟨significand, 0, true⟩
  | d :: ds =>
    if significand * 10 + d < UInt64.size then gatherWhole (significand * 10 + d) ds
    else ⟨significand, ds.length + 1, false⟩

def gatherFraction (significand : Nat) (exponent : Int) : List Nat → Nat × Int
  | [] => (significand, exponent)
  | d :: ds =>
    if significand * 10 + d < UInt64.size then
      gatherFraction (significand * 10 + d) (exponent - 1) ds
    else (significand, exponent)

-- `x · 10 ^ exponent` by one multiplication or division; none beyond the largest double.
def scaled? (x : Float) (exponent : Int) : Option Float :=
  -- Two divisions bring every 64-bit significand to zero.
  go 3 x exponent
where
  go : Nat → Float → Int → Option Float
    | 0, x, _ => some x
    | fuel + 1, x, e =>
      if 0 ≤ e then
        if e ≤ 308 then
          let y := x * Float.ofScientific 1 false e.toNat
          if y.isInf then none else some y
        else if x == 0 then some x else none
      else if -308 ≤ e then some (x / Float.ofScientific 1 false (-e).toNat)
      else if x == 0 then some x
      else go fuel (x / Float.ofScientific 1 false 308) (e + 308)

def signed (negative : Bool) (x : Float) : Number :=
  .float (if negative then -x else x)

-- The whole number `± n`; only a negative zero, and what fits no 64 bits, is a double.
def ofInteger (negative : Bool) (n : UInt64) : Number :=
  if negative then
    if h : 0 < n.toNat ∧ n.toNat ≤ UInt64.size / 2 then .negative ⟨n.toNat - 1, by omega⟩
    else signed true n.toFloat
  else .natural n

-- The number that the literal stands for; none if it is out of range. It is not the nearest double
-- in all cases: the digits are gathered in 64 bits, digits that no longer fit only move the decimal
-- point (or, behind the point, are dropped), and the significand is then multiplied or divided by
-- one power of ten.
def value? (n : Numeral) : Option Number :=
  let whole := gatherWhole 0 n.whole.reverse
  let (significand, exponent) := gatherFraction whole.significand whole.exponent n.fraction.reverse
  let head := (UInt64.ofNat significand).toFloat
  if n.power = [] then
    if n.fraction = [] ∧ whole.exact then some (ofInteger n.negative (UInt64.ofNat significand))
    else (scaled? head exponent).map (signed n.negative)
  else
    let power := Decimal.ofDigits n.power.reverse
    if UInt32.size / 2 ≤ power then
      -- An exponent of more than 31 bits leaves zero or nothing.
      if significand ≠ 0 ∧ ¬n.shrinking then none else some (signed n.negative 0)
    else
      let exponent := if n.shrinking then exponent - power else exponent + power
      (scaled? head exponent).map (signed n.negative)

end Numeral
end AnomalyDetection.Json
