import AnomalyDetection.Http.Message
import AnomalyDetection.Http.Percent
import AnomalyDetection.Text.Split

namespace AnomalyDetection.Http

-- What a path has in the place of a name: a piece of a segment as it was sent.
structure Parameter where
  name : List Char
  value : List Char
  deriving DecidableEq

-- Why parameters are not the one text that they should be.
inductive Parameter.Fault
  | unreadable (name : List Char)
  | count (n : Nat)

namespace Parameter

def Fault.response : Fault → Response
  | unreadable name => .text 400 ("Invalid URL: Invalid UTF-8 in `" ++ String.ofList name ++ "`")
  | count n =>
    .text 500 ("Wrong number of path arguments for `Path`. Expected 1 but got " ++ toString n ++
      ". Note that multiple parameters must be extracted with a tuple `Path<(_, _)>` " ++
      "or a struct `Path<YourParams>`")

def text (p : Parameter) : Except Fault String :=
  match segmentText? p.value with
  | some s => .ok s
  | none => .error (.unreadable p.name)

-- The text of a parameter that stands alone. All are decoded before they are counted.
def single (ps : List Parameter) : Except Fault String := do
  match ← ps.mapM text with
  | [s] => return s
  | texts => throw (.count texts.length)

end Parameter

-- A segment of a pattern: a text, or a name with a text in front of it.
inductive Pattern.Segment
  | text (s : List Char)
  | parameter (front name : List Char)

-- A pattern is compared with a path segment by segment. A name in braces takes what is left of its
-- segment, whatever stands there, even if it is nothing. A brace that is text is written twice.
abbrev Pattern := List Pattern.Segment

namespace Pattern

-- Reads a segment; `front` is the text so far, last to first.
def Segment.read (front : List Char) : List Char → Segment
  | [] => .text front.reverse
  | '{' :: '{' :: s => read ('{' :: front) s
  | '}' :: '}' :: s => read ('}' :: front) s
  | '{' :: s => .parameter front.reverse (s.takeWhile (· ≠ '}'))
  | c :: s => read (c :: front) s

-- The parameters of a segment that fits.
def Segment.parameters? : Segment → List Char → Option (List Parameter)
  | text t, s => if s = t then some [] else none
  | parameter front name, s => (Text.after? front s).map fun value => [⟨name, value⟩]

def ofText (s : List Char) : Pattern :=
  (Text.split '/' s).map (Segment.read [])

-- The parameters of the segments in front, if these fit, and the segments behind them.
def front? : Pattern → List (List Char) → Option (List Parameter × List (List Char))
  | [], path => some ([], path)
  | _ :: _, [] => none
  | p :: ps, s :: path => do
    let own ← p.parameters? s
    let (others, rest) ← front? ps path
    return (own ++ others, rest)

end Pattern
end AnomalyDetection.Http
