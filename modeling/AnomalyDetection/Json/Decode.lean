import AnomalyDetection.Json.Reader
import AnomalyDetection.Text.Quoted
import AnomalyDetection.Decimal.Shortest

namespace AnomalyDetection.Json

-- What stood where something else was expected.
inductive Found
  | null
  | bool (b : Bool)
  | number (n : Number)
  | string (s : String)
  | sequence
  | map

def Found.text : Found → String
  | null => "null"
  | bool b => "boolean `" ++ (if b then "true" else "false") ++ "`"
  | number (.natural n) => "integer `" ++ toString n.toNat ++ "`"
  | number (.negative m) => "integer `-" ++ toString (m.val + 1) ++ "`"
  | number (.float x) =>
    "floating point `" ++ String.ofList (Decimal.Layout.scientific.float x) ++ "`"
  | string s => "string " ++ Text.quoted s
  | sequence => "sequence"
  | map => "map"

-- Why a tree is no typed value.
inductive Fault
  | malformed
  | wrongType (found : Found) (expected : String)
  | wrongValue (found : Found) (expected : String)
  | wrongLength (length : Nat) (expected : String)
  | missingField (name : String)
  | duplicateField (name : String)
  | unknownVariant (name : String) (known : List String)
  | refused (message : String)
  -- A fault inside a field or an item.
  | inside (place : String) (fault : Fault)

namespace Fault

def message : Fault → String
  | malformed => "malformed JSON"
  | wrongType found expected => "invalid type: " ++ found.text ++ ", expected " ++ expected
  | wrongValue found expected => "invalid value: " ++ found.text ++ ", expected " ++ expected
  | wrongLength n expected => "invalid length " ++ toString n ++ ", expected " ++ expected
  | missingField name => "missing field `" ++ name ++ "`"
  | duplicateField name => "duplicate field `" ++ name ++ "`"
  | unknownVariant name known =>
    "unknown variant `" ++ name ++ "`, expected one of " ++
      ", ".intercalate (known.map fun k => "`" ++ k ++ "`")
  | refused message => message
  | inside _ fault => fault.message

-- Whether the text itself is at fault, and not what it says.
def isMalformed : Fault → Bool
  | malformed => true
  | inside _ fault => fault.isMalformed
  | _ => false

-- The places around the fault, outermost first.
def places : Fault → List String
  | inside place fault => place :: fault.places
  | _ => []

end Fault

-- Trees come from a text, or from a value that has been read before.
inductive Source
  | text
  | value
  deriving DecidableEq

-- What a decoder has to know besides the tree: where it came from, and how many arrays and objects
-- may still be nested.
structure Setting where
  source : Source
  room : Nat

-- A decoder looks at a tree once, in text order, and stops at the first fault.
abbrev Decoder (α : Type) := Setting → Document → Except Fault α

namespace Decoder

-- The fault of a tree that is not of the expected type.
def mismatch (d : Document) (expected : String) : Fault :=
  match d with
  | .null => .wrongType .null expected
  | .bool b => .wrongType (.bool b) expected
  | .number (some n) => .wrongType (.number n) expected
  | .string (some s) => .wrongType (.string s) expected
  | .array .. => .wrongType .sequence expected
  | .object .. => .wrongType .map expected
  | _ => .malformed

def string : Decoder String
  | _, .string (some s) => .ok s
  | _, d => .error (mismatch d "a string")

def bool : Decoder Bool
  | _, .bool b => .ok b
  | _, d => .error (mismatch d "a boolean")

-- A whole number below the bound; `expected` is the name of the bounded type.
def natural (bound : Nat) (expected : String) : Decoder Nat
  | _, .number (some (.natural n)) =>
    if n.toNat < bound then .ok n.toNat
    else .error (.wrongValue (.number (.natural n)) expected)
  | _, .number (some (.negative m)) => .error (.wrongValue (.number (.negative m)) expected)
  | _, d => .error (mismatch d expected)

def uint64 (expected : String) : Decoder UInt64 := fun s d =>
  (natural UInt64.size expected s d).map UInt64.ofNat

def uint32 : Decoder UInt32 := fun s d =>
  (natural UInt32.size "u32" s d).map UInt32.ofNat

def float : Decoder Float
  | _, .number (some n) => .ok n.toFloat
  | _, d => .error (mismatch d "f64")

-- Any value; the field gets it as it is.
def value : Decoder Json := fun s d =>
  match d.value? s.room with
  | some j => .ok j
  | none => .error .malformed

-- Nothing is taken from the tree, but it has to make sense.
def ignored : Decoder Unit := fun _ d =>
  if d.whole then .ok () else .error .malformed

def optional (decode : Decoder α) : Decoder (Option α)
  | _, .null => .ok none
  | s, d => (decode s d).map some

-- The setting inside an array or object, if there is room for it.
def enter (s : Setting) : Except Fault Setting :=
  match s.room with
  | 0 => .error .malformed
  | room + 1 => .ok { s with room }

def list (decode : Decoder α) : Decoder (List α)
  | s, .array items closed => do
    let s ← enter s
    let as ← go s items 0
    if closed then return as else .error .malformed
  | _, d => .error (mismatch d "a sequence")
where
  go (s : Setting) : List Document → Nat → Except Fault (List α)
    | [], _ => .ok []
    | d :: ds, i => do
      let a ← (decode s d).mapError (.inside s!"[{i}]")
      let as ← go s ds (i + 1)
      return a :: as

-- One of several names. `variants` lists every accepted spelling with its meaning.
def variant (variants : List (String × α)) : Decoder α
  | _, .string (some name) => pick name
  | s, .object ms closed =>
    match s.source, ms with
    | .value, [(some name, d)] => do
      let a ← pick name
      unit d
      return a
    | .value, _ => .error (.wrongValue .map "map with a single key")
    | .text, (some name, d) :: more => do
      let _ ← enter s
      let a ← pick name
      unit d
      if more.isEmpty && closed then return a else .error .malformed
    | .text, _ => .error .malformed
  | s, d =>
    match s.source with
    | .value => .error (mismatch d "string or map")
    | .text => .error .malformed
where
  pick (name : String) : Except Fault α :=
    match variants.lookup name with
    | some a => .ok a
    | none => .error (.unknownVariant name (variants.map Prod.fst))
  unit (d : Document) : Except Fault Unit :=
    match d with
    | .null => .ok ()
    | d => .error (mismatch d "unit")

end Decoder

-- When a field may be left out: never, in an object only, or always.
inductive Field.Presence
  | required
  | positional
  | defaulted
  deriving DecidableEq

-- A field of a record: how it is read, and where it goes. A field that is left out keeps the value
-- it has in the blank record.
structure Field (ρ : Type) where
  name : String
  presence : Field.Presence
  read : Setting → Document → ρ → Except Fault ρ

namespace Field

def of (presence : Presence) (name : String) (decode : Decoder α) (put : α → ρ → ρ) : Field ρ :=
  ⟨name, presence, fun s d r => (decode s d).map (put · r)⟩

def required (name : String) (decode : Decoder α) (put : α → ρ → ρ) : Field ρ :=
  of .required name decode put

def positional (name : String) (decode : Decoder α) (put : α → ρ → ρ) : Field ρ :=
  of .positional name decode put

def defaulted (name : String) (decode : Decoder α) (put : α → ρ → ρ) : Field ρ :=
  of .defaulted name decode put

end Field

-- A record type: its fields in order, and the record that holds the defaults. An object holds the
-- fields by name, an array by position.
structure Shape (ρ : Type) where
  name : String
  fields : List (Field ρ)
  blank : ρ

namespace Shape

-- The fields of an object, in text order. Fields that the record does not have are passed over.
def readMembers (shape : Shape ρ) (s : Setting) (seen : List String) (r : ρ) :
    List (Option String × Document) → Except Fault (ρ × List String)
  | [] => .ok (r, seen)
  | (none, _) :: _ => .error .malformed
  | (some key, d) :: ms =>
    match shape.fields.find? (·.name == key) with
    | some f =>
      if seen.contains key then .error (.duplicateField key)
      else do
        let r ← (f.read s d r).mapError (.inside key)
        shape.readMembers s (key :: seen) r ms
    | none => do
      (Decoder.ignored s d).mapError (.inside key)
      shape.readMembers s seen r ms

-- The fields of an array, by position; what is left over on either side.
def readItems (s : Setting) (r : ρ) (i : Nat) :
    List (Field ρ) → List Document → Except Fault (ρ × List (Field ρ) × List Document)
  | f :: fs, d :: ds => do
    let r ← (f.read s d r).mapError (.inside s!"[{i}]")
    readItems s r (i + 1) fs ds
  | fs, ds => .ok (r, fs, ds)

def elements (n : Nat) : String :=
  if n = 1 then "1 element" else toString n ++ " elements"

def decode (shape : Shape ρ) : Decoder ρ
  | s, .object ms closed => do
    let s ← Decoder.enter s
    let (r, seen) ← shape.readMembers s [] shape.blank ms
    if !closed then .error .malformed
    else match shape.fields.find? fun f => f.presence == .required && !seen.contains f.name with
      | some f => .error (.missingField f.name)
      | none => .ok r
  | s, .array items closed => do
    let s ← Decoder.enter s
    let (r, fs, ds) ← readItems s shape.blank 0 shape.fields items
    if ds.isEmpty && !closed && !fs.isEmpty then .error .malformed
    else match fs.findIdx? (·.presence != .defaulted) with
      | some i =>
        .error (.wrongLength (shape.fields.length - fs.length + i)
          ("struct " ++ shape.name ++ " with " ++ elements shape.fields.length))
      | none =>
        match s.source with
        | .value =>
          if ds.isEmpty then .ok r
          else .error (.wrongLength items.length "fewer elements in array")
        | .text => if ds.isEmpty && closed then .ok r else .error .malformed
  | _, d => .error (Decoder.mismatch d ("struct " ++ shape.name))

end Shape

-- Typed data straight from a text.
def decodeText (decode : Decoder α) (text : List Text.Glyph) : Except Fault α := do
  let (d, clean) := Document.read text
  let a ← decode ⟨.text, nestingLimit⟩ d
  if clean then return a else .error .malformed

-- Typed data from a value.
def decodeValue (decode : Decoder α) (j : Json) : Except Fault α :=
  decode ⟨.value, nestingLimit⟩ (.ofValue j)

end AnomalyDetection.Json
