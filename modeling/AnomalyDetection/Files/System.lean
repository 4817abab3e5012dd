import AnomalyDetection.Text.Split
import AnomalyDetection.Text.Utf8

namespace AnomalyDetection

-- Why a file cannot be used.
inductive FileFault
  | notFound
  | alreadyThere
  | notADirectory
  | isADirectory
  | nameTooLong
  | zeroInName
  | notText
  deriving DecidableEq

def FileFault.message : FileFault → String
  | notFound => "No such file or directory (os error 2)"
  | alreadyThere => "File exists (os error 17)"
  | notADirectory => "Not a directory (os error 20)"
  | isADirectory => "Is a directory (os error 21)"
  | nameTooLong => "File name too long (os error 36)"
  | zeroInName => "file name contained an unexpected NUL byte"
  | notText => "stream did not contain valid UTF-8"

namespace Files

-- The names from the root to a place.
abbrev Place := List String

inductive Entry
  | file (content : Octets)
  | directory
  deriving DecidableEq

-- The longest name and the longest path, in octets. A path's end mark counts too.
def nameLimit : Nat := 255
def pathLimit : Nat := 4095

-- The names of a path, in order.
def names (path : String) : List String :=
  (Text.split '/' path.toList).map String.ofList

-- A path below a directory; one that starts at the root stays as it is.
def join (dir path : String) : String :=
  if path.startsWith "/" || dir = "" then path
  else if dir.endsWith "/" then dir ++ path
  else dir ++ "/" ++ path

end Files

open Files

structure FileSystem where
  entries : List (Place × Entry)
  here : Place

namespace FileSystem

-- What is at a place. The root is always a directory.
def entry? (fs : FileSystem) (p : Place) : Option Entry :=
  if p = [] then some .directory else fs.entries.lookup p

-- The file system with another entry at one place.
def set (fs : FileSystem) (p : Place) (e : Entry) : FileSystem :=
  { fs with entries := (p, e) :: fs.entries.filter (·.1 ≠ p) }

def remove (fs : FileSystem) (p : Place) : FileSystem :=
  { fs with entries := fs.entries.filter (·.1 ≠ p) }

-- The place that names lead to. All of them but the last have to be directories. `..` leads back to
-- the directory around.
def follow (fs : FileSystem) (p : Place) : List String → Except FileFault Place
  | [] => .ok p
  | name :: rest =>
    if name = "" ∨ name = "." then fs.follow p rest
    else if name = ".." then fs.follow p.dropLast rest
    else if nameLimit < name.utf8ByteSize then .error .nameTooLong
    else
      let p := p ++ [name]
      if rest = [] then .ok p
      else match fs.entry? p with
        | some .directory => fs.follow p rest
        | some (.file _) => .error .notADirectory
        | none => .error .notFound

-- The place that a path leads to. One that does not start at the root starts at the working
-- directory.
def locate (fs : FileSystem) (path : String) : Except FileFault Place :=
  if '\x00' ∈ path.toList then .error .zeroInName
  else if path = "" then .error .notFound
  else if pathLimit < path.utf8ByteSize then .error .nameTooLong
  else fs.follow (if path.startsWith "/" then [] else fs.here) (names path)

def read (fs : FileSystem) (path : String) : Except FileFault Octets := do
  match fs.entry? (← fs.locate path) with
  | some (.file content) => return content
  | some .directory => throw .isADirectory
  | none => throw .notFound

-- A file's content as a text.
def readText (fs : FileSystem) (path : String) : Except FileFault (List Char) := do
  match Text.text? (← fs.read path) with
  | some s => return s
  | none => throw .notText

def write (fs : FileSystem) (path : String) (content : Octets) : Except FileFault FileSystem := do
  let p ← fs.locate path
  match fs.entry? p with
  | some .directory => throw .isADirectory
  | _ => return fs.set p (.file content)

-- Moves a file to another path, over the file that may be there.
def rename (fs : FileSystem) (source target : String) : Except FileFault FileSystem := do
  let p ← fs.locate source
  let q ← fs.locate target
  match fs.entry? p, fs.entry? q with
  | none, _ => throw .notFound
  | some (.file _), some .directory => throw .isADirectory
  | some .directory, some (.file _) => throw .notADirectory
  | some e, _ => return (fs.remove p).set q e

def isDirectory (fs : FileSystem) (path : String) : Bool :=
  match fs.locate path with
  | .ok p => fs.entry? p == some .directory
  | .error _ => false

def makeDirectory (fs : FileSystem) (path : String) : Except FileFault FileSystem := do
  let p ← fs.locate path
  match fs.entry? p with
  | some _ => throw .alreadyThere
  | none => return fs.set p .directory

-- Makes a directory and all directories around it that are missing. `outer` are the paths of the
-- directory and of those around it, innermost first.
def makeDirectories (fs : FileSystem) : List String → Except FileFault FileSystem
  | [] => .ok fs
  | path :: outer =>
    match fs.makeDirectory path with
    | .ok fs => .ok fs
    | .error .notFound => do
      let fs ← fs.makeDirectories outer
      match fs.makeDirectory path with
      | .ok fs => return fs
      | .error e => if fs.isDirectory path then return fs else throw e
    | .error e => if fs.isDirectory path then .ok fs else .error e

-- A directory path and the paths around it, innermost first.
def ancestry (path : String) : List String :=
  let front := if path.startsWith "/" then "/" else ""
  let ns := (names path).filter fun n => n ≠ ""
  (List.range ns.length).reverse.map fun i => front ++ "/".intercalate (ns.take (i + 1))

def ensureDirectory (fs : FileSystem) (path : String) : Except FileFault FileSystem :=
  fs.makeDirectories (ancestry path)

end FileSystem
end AnomalyDetection
