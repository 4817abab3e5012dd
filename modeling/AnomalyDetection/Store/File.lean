import AnomalyDetection.Store.Basic

namespace AnomalyDetection.Store

-- What a file of the store holds.
structure Envelope where
  version : UInt64
  source : Json
  deriving DecidableEq

namespace Envelope

open Json (Shape Decoder)

def shape : Shape Envelope where
  name := "StoredDetector"
  blank := ⟨0, .null⟩
  fields := [
    .required "version" (Decoder.uint64 "u64") fun x e => { e with version := x },
    .required "source" Decoder.value fun x e => { e with source := x }]

def toJson (e : Envelope) : Json :=
  .object [("version", .natural e.version), ("source", e.source)]

-- The content of the file.
def content (e : Envelope) : Octets :=
  Text.encode (e.toJson.indented 0)

def ofContent (content : Octets) : Except Json.Fault Envelope :=
  Json.decodeText shape.decode (Text.glyphs content)

-- The document and its version, as a store hands them out.
def stored (e : Envelope) : Stored := ⟨Text.encode e.source.compact, e.version⟩

-- The document of a detector. Id and version have their place outside of it.
def documentOf (d : Detector) : Json :=
  (d.toJson.sorted.without "detector_id").without "version"

end Envelope

-- The characters of ids. They are few enough to make ids file names.
def isIdChar (c : Char) : Bool :=
  c.isAlphanum || c == '-' || c == '_' || c == '.'

def isValidId (id : String) : Bool :=
  id != "" && id != "." && id != ".." && id.toList.all isIdChar

namespace File

def path (dir id : String) : String :=
  Files.join dir (id ++ ".json")

-- Where the next envelope is written before it takes its place.
def draftPath (dir id : String) : String :=
  Files.join dir (id ++ ".json.tmp")

-- The envelope of an id, if there is one.
def envelope? (fs : FileSystem) (dir id : String) : Except Fault (Option Envelope) :=
  match fs.read (path dir id) with
  | .ok content => ((Envelope.ofContent content).map some).mapError .json
  | .error .notFound => .ok none
  | .error e => .error (.file e)

def get (fs : FileSystem) (dir id : String) : Except Fault Answer :=
  if isValidId id then (envelope? fs dir id).map fun e => .of (e.map Envelope.stored)
  else .ok .missing

-- The version after that of an envelope. Behind the last one there is none, and whoever asks for it
-- crashes.
def nextVersion : Option Envelope → Except Fault UInt64
  | some e =>
    match succ? e.version with
    | some version => .ok version
    | none => .error (.task .overflow)
  | none => .ok 1

-- Writes the next envelope beside its place.
def draft (fs : FileSystem) (dir id : String) (e : Envelope) : Except Fault FileSystem :=
  (fs.write (draftPath dir id) e.content).mapError .file

-- Moves the envelope into its place.
def commit (fs : FileSystem) (dir id : String) : Except Fault FileSystem :=
  (fs.rename (draftPath dir id) (path dir id)).mapError .file

-- The answer to a write that gets the lock of its store, and what it leaves behind.
def put (fs : FileSystem) (dir id : String) (d : Detector) : Except Fault UInt64 × FileSystem :=
  if !isValidId id then (.error (.invalidId id), fs)
  else match envelope? fs dir id with
    | .error e => (.error e, fs)
    | .ok before =>
      match nextVersion before with
      | .error e => (.error e, fs)
      | .ok version =>
        match draft fs dir id ⟨version, Envelope.documentOf d⟩ with
        | .error e => (.error e, fs)
        | .ok drafted =>
          match commit drafted dir id with
          | .error e => (.error e, drafted)
          | .ok done => (.ok version, done)

-- Whether a write has crashed.
def crashed : Except Fault UInt64 → Bool
  | .error (.task .overflow) => true
  | _ => false

-- A store in use. A write that crashes has the lock of the store, and nobody gets it after that.
structure Handle where
  files : FileSystem
  poisoned : Bool

namespace Handle

def put (h : Handle) (dir id : String) (d : Detector) : Except Fault UInt64 × Handle :=
  if isValidId id && h.poisoned then (.error (.task .poisonedLock), h)
  else
    let (answer, files) := File.put h.files dir id d
    (answer, ⟨files, h.poisoned || crashed answer⟩)

end Handle

-- Makes the directory of the store.
def create (fs : FileSystem) (dir : String) : Except Fault FileSystem :=
  (fs.ensureDirectory dir).mapError .file

end File
end AnomalyDetection.Store
