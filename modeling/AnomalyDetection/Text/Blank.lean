namespace AnomalyDetection.Text

-- Unicode's `White_Space` property. Zero-width characters (U+200B, U+FEFF) and the Mongolian vowel
-- separator (U+180E) do not have it.
def isBlank (c : Char) : Bool :=
  let n := c.toNat
  (9 ≤ n && n ≤ 13) || n == 0x20 || n == 0x85 || n == 0xA0 || n == 0x1680 ||
  (0x2000 ≤ n && n ≤ 0x200A) || n == 0x2028 || n == 0x2029 || n == 0x202F || n == 0x205F ||
  n == 0x3000

-- The text after its leading blanks.
def trimStart (s : List Char) : List Char :=
  s.dropWhile isBlank

-- The text before its trailing blanks.
def trimEnd (s : List Char) : List Char :=
  (s.reverse.dropWhile isBlank).reverse

def trim (s : List Char) : List Char :=
  trimEnd (trimStart s)

-- Whether nothing but blanks is in the text.
def allBlank (s : List Char) : Bool :=
  s.all isBlank

theorem trimStart_cons (c : Char) (s : List Char) :
    trimStart (c :: s) = if isBlank c then trimStart s else c :: s := by
  simp only [trimStart, List.dropWhile]
  split <;> simp_all

end AnomalyDetection.Text
