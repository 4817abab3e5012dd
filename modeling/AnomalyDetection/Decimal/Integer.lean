namespace AnomalyDetection.Decimal

-- The value of an ASCII digit.
def digit? (c : Char) : Option Nat :=
  if '0' ≤ c ∧ c ≤ '9' then some (c.toNat - '0'.toNat) else none

-- The number with these decimal digits, most significant first.
def ofDigits (ds : List Nat) : Nat :=
  ds.foldl (fun n d => 10 * n + d) 0

-- The longest run of digits at the front, and what follows it.
def spanDigits : List Char → List Nat × List Char
  | [] => ([], [])
  | c :: s =>
    match digit? c with
    | some d => let (ds, rest) := spanDigits s; (d :: ds, rest)
    | none => ([], c :: s)

-- A natural number: one digit or more, and nothing else.
def natural? (s : List Char) : Option Nat :=
  match spanDigits s with
  | (d :: ds, []) => some (ofDigits (d :: ds))
  | _ => none

-- A natural number below the bound, with an optional plus sign.
def unsigned? (bound : Nat) (s : List Char) : Option Nat := do
  let n ← match s with
    | '+' :: rest => natural? rest
    | _ => natural? s
  if n < bound then some n else none

-- A whole number from `-bound` up to but not including `bound`, with an optional sign.
def signed? (bound : Nat) (s : List Char) : Option Int := do
  let n : Int ← match s with
    | '+' :: rest => (natural? rest).map Int.ofNat
    | '-' :: rest => (natural? rest).map fun n => -(n : Int)
    | _ => (natural? s).map Int.ofNat
  if -(bound : Int) ≤ n ∧ n < bound then some n else none

-- The decimal digits of a natural number.
def natural (n : Nat) : List Char :=
  Nat.toDigits 10 n

def integer : Int → List Char
  | .ofNat n => natural n
  | .negSucc n => '-' :: natural (n + 1)

-- At least `width` digits, filled up with zeros in front.
def padded (width n : Nat) : List Char :=
  let ds := natural n
  List.replicate (width - ds.length) '0' ++ ds

end AnomalyDetection.Decimal
