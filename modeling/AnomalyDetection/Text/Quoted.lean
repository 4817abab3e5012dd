import AnomalyDetection.Text.Unprintable

namespace AnomalyDetection.Text

-- The hexadecimal digits of a number, in lower case.
def hex (n : Nat) : List Char :=
  Nat.toDigits 16 n

-- The escape that gives a character by its number.
def numberEscape (c : Char) : List Char :=
  '\\' :: 'u' :: '\x7b' :: hex c.toNat ++ ['\x7d']

def escaped (c : Char) : List Char :=
  if c = '\x00' then ['\\', '0']
  else if c = '\t' then ['\\', 't']
  else if c = '\n' then ['\\', 'n']
  else if c = '\r' then ['\\', 'r']
  else if c = '"' then ['\\', '"']
  else if c = '\\' then ['\\', '\\']
  else if isUnprintable c then numberEscape c
  else [c]

-- The text between double quotes; what cannot be printed stands as an escape.
def quoted (s : String) : String :=
  String.ofList ('"' :: s.toList.flatMap escaped ++ ['"'])

end AnomalyDetection.Text
