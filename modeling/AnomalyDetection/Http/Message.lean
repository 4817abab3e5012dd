import AnomalyDetection.Json.Printer
import AnomalyDetection.Text.Split
import AnomalyDetection.Text.Utf8

namespace AnomalyDetection.Http

structure Request where
  method : String
  target : String
  headers : List (String × String)
  body : Octets

-- A response. Header names are in lower case.
structure Response where
  status : Nat
  headers : List (String × String)
  body : Octets
  deriving DecidableEq

namespace Request

-- The path in the target, without a query. A target may name the host before it.
def path (r : Request) : List Char :=
  let target := r.target.toList.takeWhile fun c => c != '?' && c != '#'
  match Text.after? "://".toList (target.dropWhile fun c => c != ':' && c != '/') with
  | none => target
  | some address =>
    match address.dropWhile (· != '/') with
    | [] => ['/']
    | path => path

-- The value of a header, whose name is given in lower case; the request may write it in any.
def header? (r : Request) (name : String) : Option String :=
  (r.headers.find? fun (k, _) => k.toList.map Char.toLower == name.toList).map Prod.snd

end Request

namespace Response

def empty (status : Nat) : Response := ⟨status, [], []⟩

def json (status : Nat) (j : Json) : Response :=
  ⟨status, [("content-type", "application/json")], Text.encode j.compact⟩

def text (status : Nat) (s : String) : Response :=
  ⟨status, [("content-type", "text/plain; charset=utf-8")], Text.octets s⟩

-- An error as JSON.
def error (status : Nat) (message : String) : Response :=
  json status (.object [("error", .string message)])

def withHeaders (r : Response) (headers : List (String × String)) : Response :=
  { r with headers := r.headers ++ headers }

def withoutBody (r : Response) : Response :=
  { r with body := [] }

end Response
end AnomalyDetection.Http
