import AnomalyDetection.Version

namespace AnomalyDetection.CommandLine

-- The name of the program.
def program : String := "adwatch-server"

-- The pages of the help.
inductive Page
  | overview
  | serve
  | importFile
  | help
  deriving DecidableEq

namespace Page

def lines : Page → List String
  | overview => [
    "Anomaly detector preview and run server",
    "",
    "Usage: " ++ program ++ " [COMMAND]",
    "",
    "Commands:",
    "  serve   Start the HTTP server (default)",
    "  import  Store a detector definition from a JSON file",
    "  help    Print this message or the help of the given subcommand(s)",
    "",
    "Options:",
    "  -h, --help     Print help",
    "  -V, --version  Print version"]
  | serve => [
    "Start the HTTP server (default)",
    "",
    "Usage: " ++ program ++ " serve",
    "",
    "Options:",
    "  -h, --help  Print help"]
  | importFile => [
    "Store a detector definition from a JSON file",
    "",
    "Usage: " ++ program ++ " import [OPTIONS] <PATH>",
    "",
    "Arguments:",
    "  <PATH>  Path to the detector JSON document",
    "",
    "Options:",
    "      --id <ID>  Id to store it under; defaults to the document's `detector_id`, then the " ++
      "file stem",
    "  -h, --help     Print help"]
  | help => [
    "Print this message or the help of the given subcommand(s)",
    "",
    "Usage: " ++ program ++ " help [COMMAND]...",
    "",
    "Arguments:",
    "  [COMMAND]...  Print help for the subcommand(s)"]

def text (p : Page) : String :=
  String.join (p.lines.map (· ++ "\n"))

end Page

def versionText : String := program ++ " " ++ version ++ "\n"

end AnomalyDetection.CommandLine
