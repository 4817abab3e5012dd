import AnomalyDetection.Json.Basic

namespace AnomalyDetection.Json

-- The tree of a JSON text as it stands: members in text order, repeated keys kept. Where a text
-- stops making sense, the tree stops too. Arrays and objects therefore say whether they were
-- closed, and `broken` stands for a value that is no value. Content that is wrong only when
-- somebody looks at it (a lone surrogate, an octet that is no character, a number out of range) is
-- `none`.
inductive Document
  | broken
  | null
  | bool (b : Bool)
  | number (n : Option Number)
  | string (s : Option String)
  | array (items : List Document) (closed : Bool)
  | object (members : List (Option String × Document)) (closed : Bool)

namespace Document

-- Whether the text made sense up to the end of this value.
def whole : Document → Bool
  | broken => false
  | array _ closed => closed
  | object _ closed => closed
  | _ => true

mutual

-- The value, if all of the text makes sense and no more than `room` arrays and objects are nested
-- in one another.
def value? (room : Nat) : Document → Option Json
  | broken => none
  | null => some .null
  | bool b => some (.bool b)
  | number n => n.map .number
  | string s => s.map .string
  | array items closed =>
    match room, closed with
    | room + 1, true => (items? room items).map .array
    | _, _ => none
  | object ms closed =>
    match room, closed with
    | room + 1, true => (members? room ms).map .ofMembers
    | _, _ => none

def items? (room : Nat) : List Document → Option (List Json)
  | [] => some []
  | d :: ds => do
    let j ← d.value? room
    let js ← items? room ds
    return j :: js

def members? (room : Nat) : List (Option String × Document) → Option (List (String × Json))
  | [] => some []
  | (key, d) :: ms => do
    let k ← key
    let j ← d.value? room
    let js ← members? room ms
    return (k, j) :: js

end

mutual

-- The tree of a value: all its texts are sound, its members sorted.
def ofValue : Json → Document
  | .null => null
  | .bool b => bool b
  | .number n => number (some n)
  | .string s => string (some s)
  | .array items => array (ofItems items) true
  | .object ms => object (ofMembers ms) true

def ofItems : List Json → List Document
  | [] => []
  | j :: js => ofValue j :: ofItems js

def ofMembers : List (String × Json) → List (Option String × Document)
  | [] => []
  | (k, j) :: ms => (some k, ofValue j) :: ofMembers ms

end

end Document

-- The most arrays and objects that may be nested in one another.
def nestingLimit : Nat := 127

end AnomalyDetection.Json
