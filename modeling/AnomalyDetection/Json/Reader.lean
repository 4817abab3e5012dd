import AnomalyDetection.Text.Utf8
import AnomalyDetection.Json.Document
import AnomalyDetection.Json.Numeral

namespace AnomalyDetection.Json.Reader

open Text (Glyph)

abbrev Member := Option String × Document

-- An open array or object, its parts last to first. `member` is an object that waits for the value
-- of its last key.
inductive Frame
  | array (done : List Document)
  | object (done : List Member)
  | member (done : List Member) (key : Option String)

-- A piece of a string: a character, a code unit that was written by `\u`, or an octet that is no
-- character.
inductive Piece
  | char (c : Char)
  | unit (n : Nat)
  | stray

inductive Escape
  | none
  | slash
  | hex (left : Nat) (value : Nat)

inductive Expected
  | value
  | valueOrClose
  | keyOrClose
  | key
  | colon (key : Option String)
  | separator
  | word (rest : List Char) (result : Document)
  | numeral (n : Numeral)
  | string (isKey : Bool) (done : List Piece) (escape : Escape)
  | blanks (result : Document)
  | nothing (result : Document)

-- The stack of open arrays and objects, and what may stand next. The reader takes one glyph at a
-- time, so a text of any size and nesting is read by one fold.
structure State where
  frames : List Frame
  next : Expected

def start : State := ⟨[], .value⟩

-- The tree at the point where the text stops making sense; `inner` stands in the innermost open
-- place.
def abandon (inner : Document) : List Frame → Document
  | [] => inner
  | .array done :: fs => abandon (.array (inner :: done).reverse false) fs
  | .member done key :: fs => abandon (.object ((key, inner) :: done).reverse false) fs
  | .object done :: fs => abandon (.object done.reverse false) fs

def fail (fs : List Frame) : State :=
  ⟨fs, .nothing (abandon .broken fs)⟩

-- A value is complete.
def complete (d : Document) : List Frame → State
  | [] => ⟨[], .blanks d⟩
  | .array done :: fs => ⟨.array (d :: done) :: fs, .separator⟩
  | .member done key :: fs => ⟨.object ((key, d) :: done) :: fs, .separator⟩
  | .object done :: fs => fail (.object done :: fs)

-- A bracket closes the innermost array or object.
def close (c : Char) : List Frame → State
  | .array done :: fs =>
    if c = ']' then complete (.array done.reverse true) fs else fail (.array done :: fs)
  | .object done :: fs =>
    if c = '}' then complete (.object done.reverse true) fs else fail (.object done :: fs)
  | fs => fail fs

def isSpace (c : Char) : Bool :=
  c == ' ' || c == '\n' || c == '\t' || c == '\r'

def beginValue (fs : List Frame) (c : Char) : State :=
  if c = 'n' then ⟨fs, .word "ull".toList .null⟩
  else if c = 't' then ⟨fs, .word "rue".toList (.bool true)⟩
  else if c = 'f' then ⟨fs, .word "alse".toList (.bool false)⟩
  else if c = '"' then ⟨fs, .string false [] .none⟩
  else if c = '[' then ⟨.array [] :: fs, .valueOrClose⟩
  else if c = '\x7b' then ⟨.object [] :: fs, .keyOrClose⟩
  else match Numeral.start? c with
    | some n => ⟨fs, .numeral n⟩
    | none => fail fs

def isHighSurrogate (n : Nat) : Bool := 0xD800 ≤ n && n < 0xDC00
def isLowSurrogate (n : Nat) : Bool := 0xDC00 ≤ n && n < 0xE000

-- The text of the pieces, which come last to first. Surrogates count in pairs only.
def text? : List Piece → List Char → Option (List Char)
  | [], done => some done
  | .char c :: ps, done => text? ps (c :: done)
  | .unit n :: ps, done =>
    if isLowSurrogate n then
      match ps with
      | .unit h :: ps =>
        if isHighSurrogate h then
          text? ps (Char.ofNat (0x10000 + (h - 0xD800) * 0x400 + (n - 0xDC00)) :: done)
        else none
      | _ => none
    else if isHighSurrogate n then none
    else text? ps (Char.ofNat n :: done)
  | .stray :: _, _ => none

def hexDigit? (c : Char) : Option Nat :=
  if '0' ≤ c ∧ c ≤ '9' then some (c.toNat - '0'.toNat)
  else if 'a' ≤ c ∧ c ≤ 'f' then some (c.toNat - 'a'.toNat + 10)
  else if 'A' ≤ c ∧ c ≤ 'F' then some (c.toNat - 'A'.toNat + 10)
  else none

-- The character that a one-letter escape stands for.
def escaped? (c : Char) : Option Char :=
  if c = '"' ∨ c = '\\' ∨ c = '/' then some c
  else if c = 'b' then some '\x08'
  else if c = 'f' then some '\x0c'
  else if c = 'n' then some '\n'
  else if c = 'r' then some '\r'
  else if c = 't' then some '\t'
  else none

def endString (fs : List Frame) (isKey : Bool) (done : List Piece) : State :=
  let s := (text? done []).map String.ofList
  if isKey then ⟨fs, .colon s⟩ else complete (.string s) fs

def stepString (fs : List Frame) (isKey : Bool) (done : List Piece) : Escape → Glyph → State
  | .none, none => ⟨fs, .string isKey (.stray :: done) .none⟩
  | .none, some c =>
    if c = '"' then endString fs isKey done
    else if c = '\\' then ⟨fs, .string isKey done .slash⟩
    else if c.toNat < 0x20 then fail fs
    else ⟨fs, .string isKey (.char c :: done) .none⟩
  | .slash, some c =>
    if c = 'u' then ⟨fs, .string isKey done (.hex 4 0)⟩
    else match escaped? c with
      | some e => ⟨fs, .string isKey (.char e :: done) .none⟩
      | none => fail fs
  | .hex left value, some c =>
    match hexDigit? c with
    | some d =>
      if left ≤ 1 then ⟨fs, .string isKey (.unit (value * 16 + d) :: done) .none⟩
      else ⟨fs, .string isKey done (.hex (left - 1) (value * 16 + d))⟩
    | none => fail fs
  | _, none => fail fs

-- Between the tokens: the state after one character, for all that is no numeral and no string.
def stepToken (fs : List Frame) (c : Char) : Expected → State
  | .value => if isSpace c then ⟨fs, .value⟩ else beginValue fs c
  | .valueOrClose =>
    if isSpace c then ⟨fs, .valueOrClose⟩
    else if c = ']' then close c fs
    else beginValue fs c
  | .keyOrClose =>
    if isSpace c then ⟨fs, .keyOrClose⟩
    else if c = '"' then ⟨fs, .string true [] .none⟩
    else if c = '\x7d' then close c fs
    else fail fs
  | .key =>
    if isSpace c then ⟨fs, .key⟩
    else if c = '"' then ⟨fs, .string true [] .none⟩
    else fail fs
  | .colon key =>
    match fs with
    | .object done :: outer =>
      if isSpace c then ⟨fs, .colon key⟩
      else if c = ':' then ⟨.member done key :: outer, .value⟩
      else fail (.member done key :: outer)
    | fs => fail fs
  | .separator =>
    if isSpace c then ⟨fs, .separator⟩
    else if c = ',' then
      match fs with
      | .object _ :: _ => ⟨fs, .key⟩
      | fs => ⟨fs, .value⟩
    else close c fs
  | .word (w :: ws) d => if c = w then
      (if ws = [] then complete d fs else ⟨fs, .word ws d⟩)
    else fail fs
  | .word [] _ => fail fs
  | .blanks d => if isSpace c then ⟨fs, .blanks d⟩ else ⟨fs, .nothing d⟩
  | e => ⟨fs, e⟩

def step : State → Glyph → State
  | ⟨fs, .nothing d⟩, _ => ⟨fs, .nothing d⟩
  | ⟨fs, .string isKey done escape⟩, g => stepString fs isKey done escape g
  | ⟨fs, .numeral n⟩, some c =>
    match n.step c with
    | .more n => ⟨fs, .numeral n⟩
    | .broken => fail fs
    | .over =>
      -- The character behind a numeral belongs to what follows.
      let s := complete (.number n.value?) fs
      stepToken s.frames c s.next
  | ⟨fs, .numeral n⟩, none =>
    match n.step ' ' with
    | .over => let s := complete (.number n.value?) fs; broken s
    | _ => fail fs
  | s, some c => stepToken s.frames c s.next
  | s, none => broken s
where
  broken : State → State
    | ⟨fs, .blanks d⟩ => ⟨fs, .nothing d⟩
    | ⟨.object done :: fs, .colon key⟩ => fail (.member done key :: fs)
    | ⟨fs, _⟩ => fail fs

-- The end of the text. A blank there ends a numeral and changes nothing else.
def finish (s : State) : Document × Bool :=
  match step s (some ' ') with
  | ⟨_, .blanks d⟩ => (d, true)
  | ⟨_, .nothing d⟩ => (d, false)
  | ⟨.object done :: fs, .colon key⟩ => (abandon .broken (.member done key :: fs), false)
  | ⟨fs, _⟩ => (abandon .broken fs, false)

end Reader

-- The tree of a text, and whether nothing but blanks follows its value.
def Document.read (text : List Text.Glyph) : Document × Bool :=
  Reader.finish (text.foldl Reader.step Reader.start)

-- The value of a text, if the text is JSON.
def read? (text : List Text.Glyph) : Option Json :=
  match Document.read text with
  | (d, true) => d.value? nestingLimit
  | (_, false) => none

def readOctets? (octets : Octets) : Option Json :=
  read? (Text.glyphs octets)

end AnomalyDetection.Json
