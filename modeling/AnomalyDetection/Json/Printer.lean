import AnomalyDetection.Json.Basic
import AnomalyDetection.Decimal.Shortest

namespace AnomalyDetection.Json

def hexDigit (n : Nat) : Char :=
  if n < 10 then Char.ofNat ('0'.toNat + n) else Char.ofNat ('a'.toNat + (n - 10))

-- Quotes, backslashes and control characters are escaped, nothing else is.
def escape (c : Char) : List Char :=
  if c = '"' then ['\\', '"']
  else if c = '\\' then ['\\', '\\']
  else if c = '\x08' then ['\\', 'b']
  else if c = '\x0c' then ['\\', 'f']
  else if c = '\n' then ['\\', 'n']
  else if c = '\r' then ['\\', 'r']
  else if c = '\t' then ['\\', 't']
  else if c.toNat < 0x20 then
    ['\\', 'u', '0', '0', hexDigit (c.toNat / 16), hexDigit (c.toNat % 16)]
  else [c]

def quoted (s : String) : List Char :=
  '"' :: s.toList.flatMap escape ++ ['"']

-- A double that is not finite has no JSON form; `null` stands for it.
def Number.text : Number → List Char
  | .natural n => Decimal.natural n.toNat
  | .negative m => '-' :: Decimal.natural (m.val + 1)
  | .float x => (Decimal.Layout.scientific.float? x).getD "null".toList

mutual

def compact : Json → List Char
  | null => "null".toList
  | bool true => "true".toList
  | bool false => "false".toList
  | number n => n.text
  | string s => quoted s
  | array [] => "[]".toList
  | array (j :: js) => '[' :: j.compact ++ compactItems js
  | object [] => ['\x7b', '\x7d']
  | object ((k, j) :: ms) => '\x7b' :: quoted k ++ ':' :: j.compact ++ compactMembers ms

-- The items behind the first one, and the closing bracket.
def compactItems : List Json → List Char
  | [] => [']']
  | j :: js => ',' :: j.compact ++ compactItems js

def compactMembers : List (String × Json) → List Char
  | [] => ['\x7d']
  | (k, j) :: ms => ',' :: quoted k ++ ':' :: j.compact ++ compactMembers ms

end

-- A line break and two blanks a level.
def newLine (level : Nat) : List Char :=
  '\n' :: List.replicate (2 * level) ' '

mutual

def indented (level : Nat) : Json → List Char
  | null => "null".toList
  | bool true => "true".toList
  | bool false => "false".toList
  | number n => n.text
  | string s => quoted s
  | array [] => "[]".toList
  | array (j :: js) =>
    '[' :: newLine (level + 1) ++ j.indented (level + 1) ++ indentedItems level js
  | object [] => ['\x7b', '\x7d']
  | object ((k, j) :: ms) =>
    '\x7b' :: newLine (level + 1) ++ quoted k ++ ": ".toList ++ j.indented (level + 1) ++
      indentedMembers level ms

def indentedItems (level : Nat) : List Json → List Char
  | [] => newLine level ++ [']']
  | j :: js => ',' :: newLine (level + 1) ++ j.indented (level + 1) ++ indentedItems level js

def indentedMembers (level : Nat) : List (String × Json) → List Char
  | [] => newLine level ++ ['\x7d']
  | (k, j) :: ms =>
    ',' :: newLine (level + 1) ++ quoted k ++ ": ".toList ++ j.indented (level + 1) ++
      indentedMembers level ms

end

-- The compact form as a string.
def text (j : Json) : String :=
  String.ofList j.compact

end AnomalyDetection.Json
