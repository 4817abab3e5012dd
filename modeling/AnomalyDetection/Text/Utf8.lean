import AnomalyDetection.Text.Blank

namespace AnomalyDetection

abbrev Octets := List UInt8

namespace Text

-- A character, or the mark of an octet that begins none.
abbrev Glyph := Option Char

-- The payload of a continuation octet `10xxxxxx`.
def continuation? (b : UInt8) : Option Nat :=
  if 0x80 ≤ b.toNat ∧ b.toNat < 0xC0 then some (b.toNat - 0x80) else none

-- Overlong forms and surrogates are no characters, so each length has a least value of its own.

def pair? (a b : UInt8) : Option Char := do
  if 0xC0 ≤ a.toNat ∧ a.toNat < 0xE0 then
    let x ← continuation? b
    let n := (a.toNat - 0xC0) * 64 + x
    if 0x80 ≤ n then some (Char.ofNat n) else none
  else none

def triple? (a b c : UInt8) : Option Char := do
  if 0xE0 ≤ a.toNat ∧ a.toNat < 0xF0 then
    let x ← continuation? b
    let y ← continuation? c
    let n := ((a.toNat - 0xE0) * 64 + x) * 64 + y
    if 0x800 ≤ n ∧ (n < 0xD800 ∨ 0xE000 ≤ n) then some (Char.ofNat n) else none
  else none

def quadruple? (a b c d : UInt8) : Option Char := do
  if 0xF0 ≤ a.toNat ∧ a.toNat < 0xF8 then
    let x ← continuation? b
    let y ← continuation? c
    let z ← continuation? d
    let n := (((a.toNat - 0xF0) * 64 + x) * 64 + y) * 64 + z
    if 0x10000 ≤ n ∧ n < 0x110000 then some (Char.ofNat n) else none
  else none

-- The first glyph of the octets `a :: rest` and what follows it.
def firstGlyph (a : UInt8) (rest : Octets) : Glyph × Octets :=
  if a.toNat < 0x80 then (some (Char.ofNat a.toNat), rest)
  else match rest with
    | b :: rest₂ =>
      match pair? a b with
      | some g => (some g, rest₂)
      | none => match rest₂ with
        | c :: rest₃ =>
          match triple? a b c with
          | some g => (some g, rest₃)
          | none => match rest₃ with
            | d :: rest₄ =>
              match quadruple? a b c d with
              | some g => (some g, rest₄)
              | none => (none, rest)
            | [] => (none, rest)
        | [] => (none, rest)
    | [] => (none, rest)

theorem firstGlyph_length (a : UInt8) (rest : Octets) :
    (firstGlyph a rest).2.length ≤ rest.length := by
  unfold firstGlyph
  repeat' split
  all_goals simp_all <;> omega

-- Octets read as characters. An octet that begins no character stands as `none`, and reading goes
-- on behind it, so that a reader may decide for itself where such an octet matters.
def glyphs (octets : Octets) : List Glyph :=
  go octets.length octets []
where
  -- The count bounds the octets left, each step takes at least one.
  go : Nat → Octets → List Glyph → List Glyph
    | 0, _, done => done.reverse
    | _, [], done => done.reverse
    | n + 1, a :: rest, done =>
      let (g, rest') := firstGlyph a rest
      go n rest' (g :: done)

-- The characters behind a list of glyphs, if each of them is one.
def chars? (gs : List Glyph) : Option (List Char) :=
  go gs []
where
  go : List Glyph → List Char → Option (List Char)
    | [], done => some done.reverse
    | some c :: gs, done => go gs (c :: done)
    | none :: _, _ => none

-- The octets as a text, if they are UTF-8 throughout.
def text? (octets : Octets) : Option (List Char) :=
  chars? (glyphs octets)

-- The UTF-8 form of a text.
def encode (s : List Char) : Octets :=
  s.flatMap String.utf8EncodeChar

-- The UTF-8 form of a string.
def octets (s : String) : Octets :=
  encode s.toList

end Text
end AnomalyDetection
