import AnomalyDetection.Time.Instant
import AnomalyDetection.Decimal.Integer
import AnomalyDetection.Text.Blank

namespace AnomalyDetection

inductive Instant.Fault
  | premature
  | invalid
  | outOfRange
  | impossible
  | trailing
  deriving DecidableEq

def Instant.Fault.message : Fault → String
  | premature => "premature end of input"
  | invalid => "input contains invalid characters"
  | outOfRange => "input is out of range"
  | impossible => "no possible date and time matching input"
  | trailing => "trailing input"

namespace Instant

-- A reader that takes characters off the front of a text.
abbrev Scan (α : Type) := StateT (List Char) (Except Fault) α

namespace Scan

-- At least `least` digits and at most `most`.
def number (least most : Nat) : Scan Nat := do
  let s ← get
  let ds := (s.take most).takeWhile fun c => (Decimal.digit? c).isSome
  if ds.length < least then throw (if s = [] then .premature else .invalid)
  set (s.drop ds.length)
  return Decimal.ofDigits (ds.filterMap Decimal.digit?)

-- A number that has to lie between two bounds.
def ranged (least most low high : Nat) : Scan Nat := do
  let n ← number least most
  if low ≤ n ∧ n ≤ high then return n else throw .outOfRange

-- One character of several.
def oneOf (cs : List Char) : Scan Unit := do
  match ← get with
  | [] => throw .premature
  | c :: rest => if c ∈ cs then set rest else throw .invalid

-- The letter or blank between date and time.
def divider : Scan Unit := oneOf ['T', 't', ' ']

-- Nanoseconds behind an optional point; digits after the ninth are passed over.
def fraction : Scan Nat := do
  match ← get with
  | '.' :: rest =>
    let (ds, rest) := Decimal.spanDigits rest
    if ds = [] then throw (if rest = [] then .premature else .invalid)
    set rest
    let nine := ds.take 9
    return Decimal.ofDigits nine * Nat.pow 10 (9 - nine.length)
  | _ => return 0

def octetLength (s : List Char) : Nat :=
  (String.ofList s).utf8ByteSize

-- Two digits; the number they make is out of range if the first one is not below `top`.
def twoDigits (top : Nat) : Scan Nat := do
  match ← get with
  | a :: b :: rest =>
    match Decimal.digit? a, Decimal.digit? b with
    | some x, some y =>
      if x < top then
        set rest
        return 10 * x + y
      else throw .outOfRange
    | _, _ => throw .invalid
  | s => throw (if octetLength s < 2 then .premature else .invalid)

-- The offset from UTC in seconds; `between` reads what stands between hours and minutes.
def offset (between : Scan Unit) : Scan Int := do
  match ← get with
  | [] => throw .premature
  | c :: rest =>
    if c = 'Z' ∨ c = 'z' then
      set rest
      return 0
    let sign : Int ←
      if c = '+' then pure 1
      else if c = '-' ∨ c = '\u2212' then pure (-1)
      else throw .invalid
    set rest
    let hours ← twoDigits 10
    between
    let minutes ← twoDigits 6
    return sign * (hours * 3600 + minutes * 60)

structure Fields where
  date : Date
  hour : Nat
  minute : Nat
  second : Nat
  nanosecond : Nat
  offset : Int

-- The instant of the fields, if the calendar has it.
def Fields.instant (f : Fields) : Except Fault Instant := do
  let day := f.date.toDay
  if !f.date.isValid || day < firstDay || lastDay < day then throw .outOfRange
  if f.offset ≤ -86400 ∨ 86400 ≤ f.offset then throw .outOfRange
  let leap := f.second = 60
  let local_ : Int := f.hour * 3600 + f.minute * 60 + (if leap then 59 else f.second)
  let t := ofParts day (local_ - f.offset) 0
  let nanosecond := (if leap then giga else 0) + f.nanosecond
  if h : nanosecond < 2 * giga then
    let t : Instant := { t with nanosecond, nanosecond_lt := h }
    if t.InRange then return t else throw .impossible
  else throw .outOfRange

-- The fields of the strict grammar. It is that of RFC 3339: every field has its full width and
-- nothing stands between the fields.
def strict : Scan Fields := do
  let year ← number 4 4
  oneOf ['-']
  let month ← ranged 2 2 1 12
  oneOf ['-']
  let day ← ranged 2 2 1 31
  divider
  let hour ← ranged 2 2 0 23
  oneOf [':']
  let minute ← ranged 2 2 0 59
  oneOf [':']
  let second ← ranged 2 2 0 60
  let nanosecond ← fraction
  let offset ← offset (oneOf [':'])
  return ⟨⟨year, month, day⟩, hour, minute, second, nanosecond, offset⟩

def blanks : Scan Unit := modify Text.trimStart

-- A year with an optional sign; a signed one may have any number of digits.
def looseYear : Scan Int := do
  blanks
  let year : Int ← match ← get with
    | '-' :: rest => do
      set rest
      let n ← number 1 rest.length
      pure (-(n : Int))
    | '+' :: rest => do
      set rest
      let n ← number 1 rest.length
      pure (n : Int)
    | _ => do
      let n ← number 1 4
      pure (n : Int)
  if -2147483648 ≤ year ∧ year < 2147483648 then return year else throw .outOfRange

-- One or two digits behind any blanks.
def looseField (low high : Nat) : Scan Nat := do
  blanks
  ranged 1 2 low high

def looseMark (c : Char) : Scan Unit := do
  blanks
  oneOf [c]

def looseOffset : Scan Int := do
  blanks
  let s ← get
  if (s.take 3).map Char.toUpper = ['U', 'T', 'C'] then
    set (s.drop 3)
    return 0
  offset (modify fun s => s.dropWhile fun c => c == ':' || Text.isBlank c)

-- The fields of the loose grammar. It also takes blanks between fields, fields with fewer digits,
-- signed years of any size and `UTC` for the offset.
def loose : Scan Fields := do
  let year ← looseYear
  looseMark '-'
  let month ← looseField 1 12
  looseMark '-'
  let day ← looseField 1 31
  divider
  let hour ← looseField 0 23
  looseMark ':'
  let minute ← looseField 0 59
  looseMark ':'
  let second ← looseField 0 60
  let nanosecond ← fraction
  let offset ← looseOffset
  return ⟨⟨year, month, day⟩, hour, minute, second, nanosecond, offset⟩

end Scan

-- An instant in the strict grammar.
def ofText? (s : List Char) : Option Instant := do
  let (fields, rest) ← (Scan.strict.run s).toOption
  if rest = [] then fields.instant.toOption else none

-- An instant in the loose grammar.
def ofLooseText (s : List Char) : Except Fault Instant := do
  let (fields, rest) ← Scan.loose.run s
  if Text.allBlank rest then fields.instant else throw .trailing

end Instant
end AnomalyDetection
