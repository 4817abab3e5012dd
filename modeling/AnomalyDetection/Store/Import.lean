import AnomalyDetection.Store.File

namespace AnomalyDetection.Store

-- Why a file is not imported.
inductive ImportFault
  | file (fault : FileFault)
  | document (fault : Json.Fault)
  | noId (path : String)
  | store (fault : Fault)

def ImportFault.message : ImportFault → String
  | file fault => fault.message
  | document fault => fault.message
  | noId path => "Cannot derive a detector id from " ++ path
  | store fault => fault.message

-- The last name of a path, unless it leads around or nowhere.
def fileName? (path : String) : Option String :=
  match ((Files.names path).filter fun n => n ≠ "" ∧ n ≠ ".").getLast? with
  | some ".." => none
  | some name => some name
  | none => none

-- A file name without what follows its last dot; a dot in front counts for nothing.
def fileStem? (path : String) : Option String :=
  (fileName? path).map fun name =>
    match (name.toList.reverse.dropWhile (· ≠ '.')) with
    | _ :: stem => if stem = [] then name else String.ofList stem.reverse
    | [] => name

-- The id to store a document under: the one asked for, else its own, else the file's stem.
def importId? (path : String) (id : Option String) (d : Detector) : Option String :=
  id.or (d.id.or (fileStem? path))

-- Imports the detector in a file; the answer is its id and version.
def importFile (fs : FileSystem) (dir path : String) (id : Option String) :
    Except ImportFault (String × UInt64) × FileSystem :=
  match fs.read path with
  | .error e => (.error (.file e), fs)
  | .ok source =>
    match Json.decodeText Detector.shape.decode (Text.glyphs source) with
    | .error e => (.error (.document e), fs)
    | .ok d =>
      match importId? path id d with
      | none => (.error (.noId path), fs)
      | some id =>
        match File.create fs dir with
        | .error e => (.error (.store e), fs)
        | .ok fs =>
          let (answer, fs) := File.put fs dir id d
          ((answer.map (id, ·)).mapError .store, fs)

end AnomalyDetection.Store
