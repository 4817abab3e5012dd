import AnomalyDetection.Text.Quoted

namespace AnomalyDetection.Text

-- The characters of ASCII that a terminal obeys: bell, backspace, form feed, escape and delete.
def terminalControls : List Char :=
  ['\x07', '\x08', '\x0c', '\x1b', '\x7f']

-- What stands for a character on a terminal. Above ASCII there is a second block of control
-- characters, all of which become escapes.
def tamed (c : Char) : List Char :=
  if c ∈ terminalControls then
    ['\\', 'x', Nat.digitChar (c.toNat / 16), Nat.digitChar (c.toNat % 16)]
  else if 0x80 ≤ c.toNat ∧ c.toNat ≤ 0x9F then numberEscape c
  else [c]

-- The text with nothing in it that a terminal obeys. What it would ring for, go back for, erase for
-- or take for the start of a command stands as an escape, so that a value in the log can only be
-- read. Tabs, line feeds and the other control characters pass.
def forTerminal (s : String) : String :=
  String.ofList (s.toList.flatMap tamed)

end AnomalyDetection.Text
