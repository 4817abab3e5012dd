import AnomalyDetection.CommandLine.Program
import AnomalyDetection.Files.Disk

namespace AnomalyDetection

-- What is behind a handle. A directory can be opened but not read.
def entryBehind (handle : IO.FS.Handle) : IO Files.Entry := do
  try return .file (← handle.readBinToEnd).toList
  catch _ => return .directory

-- What is on the disk at a place.
def entryOnDisk (p : Files.Place) : IO (Option Files.Entry) := do
  try return some (← entryBehind (← IO.FS.Handle.mk (Files.pathOf p) .read))
  catch _ => return none

-- A file system with what is on the disk at some places.
def fileSystemOnDisk (here : Files.Place) (places : List Files.Place) : IO FileSystem := do
  let entries ← places.eraseDups.filterMapM fun p => do
    return (← entryOnDisk p).map (p, ·)
  return ⟨entries, here⟩

-- Puts changes on the disk. A file is written beside its place and moved there.
def writeToDisk (changes : List (Files.Place × Files.Entry)) : IO Unit :=
  changes.forM fun (p, e) => do
    let path := Files.pathOf p
    match e with
    | .directory => IO.FS.createDirAll path
    | .file content =>
      IO.FS.writeBinFile (path ++ ".tmp") ⟨content.toArray⟩
      IO.FS.rename (path ++ ".tmp") path

-- The variables that the program was started with.
def environment : IO Environment := do
  let octets := (← IO.FS.readBinFile "/proc/self/environ").toList
  let texts := (Text.split '\x00' ((Text.glyphs octets).filterMap id)).map fun text =>
    let name := text.takeWhile (· ≠ '=')
    (String.ofList name, String.ofList (text.drop (name.length + 1)))
  return texts.filter (·.1 ≠ "")

end AnomalyDetection

-- A run is tried once to learn which places it changes, and then made on a file system that holds
-- these as they are.
open AnomalyDetection in
def main (args : List String) : IO UInt32 := do
  let here := (Files.names (← IO.currentDir).toString).filter (· ≠ "")
  let env ← environment
  let settingFiles := (List.range (here.length + 1)).map fun k => here.take k ++ [".env"]
  let around := (List.range (here.length + 1)).map here.take
  let named := args.flatMap (Files.placesTo here)
  let fs ← fileSystemOnDisk here (around ++ settingFiles ++ named)
  let config := Config.ofEnvironment (EnvironmentFile.complete fs env)
  let data := Files.placesTo here config.detectorsDir
  let fs ← fileSystemOnDisk here (around ++ settingFiles ++ named ++ data)
  let touched := (fs.changes (CommandLine.run fs env args).2).map Prod.fst
  let fs ← fileSystemOnDisk here (around ++ settingFiles ++ named ++ data ++ touched)
  let (outcome, after) := CommandLine.run fs env args
  writeToDisk (fs.changes after)
  if let .serving server := outcome then
    server.config.log.forM IO.println
  IO.print outcome.output
  IO.eprint outcome.errors
  return UInt32.ofNat outcome.code
