import AnomalyDetection.CommandLine.Reader
import AnomalyDetection.Service.Server
import AnomalyDetection.Settings.EnvironmentFile
import AnomalyDetection.Store.Import

namespace AnomalyDetection.CommandLine

-- How a run of the program ends. Only a server goes on.
inductive Outcome
  | shown (text : String)
  | misused (stop : Stop)
  | failed (message : String)
  | serving (server : Service.Server)

namespace Outcome

-- The exit code.
def code : Outcome → Nat
  | shown _ => 0
  | misused _ => 2
  | failed _ => 1
  | serving _ => 0

-- What is printed.
def output : Outcome → String
  | shown text => text
  | _ => ""

-- What is printed about a failure.
def errors : Outcome → String
  | failed message => "Error: " ++ message ++ "\n"
  | misused _ => "For more information, try '--help'.\n"
  | _ => ""

end Outcome

-- How the reading of a command line ends the program.
def Stop.outcome : Stop → Outcome
  | .help page => .shown page.text
  | .version => .shown versionText
  | stop => .misused stop

-- What an import reports.
def importedText (id : String) (version : UInt64) : String :=
  "Imported detector '" ++ id ++ "' (version " ++ toString version.toNat ++ ")\n"

def Command.run (config : Config) (fs : FileSystem) : Command → Outcome × FileSystem
  | .serve =>
    match Service.Server.start config fs with
    | .ok server => (.serving server, server.files)
    | .error e => (.failed e.message, fs)
  | .importFile path id =>
    match Store.importFile fs config.detectorsDir path id with
    | (.ok (id, version), fs) => (.shown (importedText id version), fs)
    | (.error e, fs) => (.failed e.message, fs)

-- Runs the program in the working directory of a file system.
def run (fs : FileSystem) (env : Environment) (args : List String) : Outcome × FileSystem :=
  match read args with
  | .error stop => (stop.outcome, fs)
  | .ok command =>
    Command.run (.ofEnvironment (EnvironmentFile.complete fs env)) fs (command.getD .serve)

end AnomalyDetection.CommandLine
