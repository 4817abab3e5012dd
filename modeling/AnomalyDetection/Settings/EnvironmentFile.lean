import AnomalyDetection.Settings.Config
import AnomalyDetection.Text.Alphanumeric
import AnomalyDetection.Text.Utf8

namespace AnomalyDetection.EnvironmentFile

-- Where a line stands with its quotes.
inductive Quoting
  | bare
  | blank
  | escaped
  | single
  | singleEscaped
  | double
  | doubleEscaped
  deriving DecidableEq

-- The quoting behind one more character.
def Quoting.next (q : Quoting) (c : Char) : Quoting :=
  match q with
  | escaped => bare
  | singleEscaped => single
  | doubleEscaped => double
  | single => if c = '\\' then singleEscaped else if c = '\'' then bare else single
  | double => if c = '\\' then doubleEscaped else if c = '"' then bare else double
  | bare | blank =>
    if c = '\\' then escaped
    else if c = '"' then double
    else if c = '\'' then single
    else if q = bare ∧ Text.isBlank c ∧ c ≠ '\n' ∧ c ≠ '\r' then blank
    else bare

-- What a line leaves: the text before its comment, or else the quoting at its end.
inductive Tail
  | comment (before : List Char)
  | ends (q : Quoting)

-- Reads a line for its quotes; `read` is what lies behind, last to first. A comment starts at a
-- number sign after a blank.
def tail (q : Quoting) (read : List Char) : List Char → Tail
  | [] => .ends q
  | c :: s =>
    if q = .blank ∧ c = '#' then .comment read.reverse else tail (q.next c) (c :: read) s

-- The lines of a text, each with its line feed.
def rawLines : List Char → List (List Char)
  | [] => []
  | c :: s =>
    if c = '\n' then [c] :: rawLines s
    else match rawLines s with
      | line :: lines => (c :: line) :: lines
      | [] => [[c]]

-- A line without its line feed and the carriage return before that.
def chomp (line : List Char) : List Char :=
  match line.reverse with
  | '\n' :: '\r' :: s => s.reverse
  | '\n' :: s => s.reverse
  | _ => line

-- Puts lines together as long as a quote stays open. What never closes is left out.
def joinLines (q : Quoting) (buffer : List Char) : List (List Char) → List (List Char)
  | [] => []
  | line :: lines =>
    if (Text.trimStart (buffer ++ line)).head? = some '#' then [] :: joinLines .bare [] lines
    else match tail q [] line with
      | .comment before => (buffer ++ before) :: joinLines .bare [] lines
      | .ends .bare => chomp (buffer ++ line) :: joinLines .bare [] lines
      | .ends q => joinLines q (buffer ++ line) lines

-- A file's text up to the line in which it stops being a text.
def readable (content : Octets) : List Char :=
  let glyphs := Text.glyphs content
  let text := (glyphs.takeWhile Option.isSome).filterMap id
  let text := if text.length = glyphs.length then text
    else (text.reverse.dropWhile (· ≠ '\n')).reverse
  match text with
  | '\uFEFF' :: s => s
  | _ => text

-- How the next character of a value is read. `quoted` says whether double quotes are around.
inductive Mode
  | plain
  | ended
  | single
  | double
  | escaped (quoted : Bool)
  | name (quoted : Bool) (read : List Char)
  | braced (quoted : Bool) (read : List Char)

def Mode.around (quoted : Bool) : Mode :=
  if quoted then double else plain

-- The value in a text. `value` gives a variable's value by its name, and `out` is the value so far,
-- last to first. A value may be quoted, and quotes may hold line feeds. Outside of single quotes a
-- backslash escapes and a dollar names a variable.
def readValue (value : String → String) (m : Mode) (out : List Char) :
    List Char → Option (List Char)
  | [] =>
    match m with
    | .single | .double | .braced .. | .name true _ | .escaped true => none
    | .name false read => some (out.reverse ++ named read)
    | _ => some out.reverse
  | c :: s =>
    match m with
    | .ended =>
      if c = ' ' ∨ c = '\t' then readValue value .ended out s
      else if c = '#' then some out.reverse
      else none
    | .escaped quoted =>
      if c ∈ ['\\', '\'', '"', '$', ' '] then readValue value (.around quoted) (c :: out) s
      else if c = 'n' then readValue value (.around quoted) ('\n' :: out) s
      else none
    | .single =>
      if c = '\'' then readValue value .plain out s else readValue value .single (c :: out) s
    | .name quoted read =>
      if Text.isAlphanumeric c then readValue value (.name quoted (c :: read)) out s
      else if c = '{' ∧ read = [] then readValue value (.braced quoted []) out s
      else if c = '$' then readValue value (.name quoted []) ((named read).reverse ++ out) s
      else readValue value (.around quoted) (c :: (named read).reverse ++ out) s
    | .braced quoted read =>
      if c = '}' then readValue value (.around quoted) ((named read).reverse ++ out) s
      else readValue value (.braced quoted (c :: read)) out s
    | .double =>
      if c = '$' then readValue value (.name true []) out s
      else if c = '"' then readValue value .plain out s
      else if c = '\\' then readValue value (.escaped true) out s
      else readValue value .double (c :: out) s
    | .plain =>
      if c = '$' then readValue value (.name false []) out s
      else if c = '\'' then readValue value .single out s
      else if c = '"' then readValue value .double out s
      else if c = '\\' then readValue value (.escaped false) out s
      else if c = ' ' ∨ c = '\t' then readValue value .ended out s
      else readValue value .plain (c :: out) s
where
  named (read : List Char) : List Char := (value (String.ofList read.reverse)).toList

-- The key in front of a text, and what follows it.
def key? (s : List Char) : Option (List Char × List Char) :=
  match s with
  | c :: _ =>
    if c.isAlpha ∨ c = '_' then
      some (s.span fun c => c.isAlphanum || c == '_' || c == '.')
    else none
  | [] => none

def equals? (s : List Char) : Option (List Char) :=
  Text.after? ['='] (Text.trimStart s)

-- The key of a line and the text of its value. A key may have `export` before it.
def assignment? (line : List Char) : Option (List Char × List Char) := do
  let (key, s) ← key? line
  match equals? s with
  | some s => return (key, Text.trimStart s)
  | none =>
    if key = "export".toList then
      let (key, s) ← key? (Text.trimStart s)
      return (key, Text.trimStart (← equals? s))
    else none

-- Whether nothing but a comment is left.
def isBare (s : List Char) : Bool :=
  s = [] || s.head? = some '#'

-- The key and the value of a line.
def readVariable (value : String → String) (line : List Char) : Option (String × String) := do
  let (key, s) ← assignment? line
  let text ← if isBare s then some [] else readValue value .plain [] s
  return (String.ofList key, String.ofList text)

-- The environment with the variables that lines supply. Names in values mean variables of the
-- environment and, failing that, `known` ones that lines before have given a value. Reading stops
-- at the first line that makes no sense; what stands before it counts.
def supply (known env : Environment) : List (List Char) → Environment
  | [] => env
  | line :: lines =>
    let line := Text.trim line
    let value (name : String) := ((env.lookup name).or (known.lookup name)).getD ""
    if isBare line then supply known env lines
    else match readVariable value line with
      | none => env
      | some (key, text) =>
        let env := if (env.lookup key).isSome then env else (key, text) :: env
        supply ((key, text) :: known) env lines

-- The environment with the variables that a file supplies.
def load (env : Environment) (content : Octets) : Environment :=
  supply [] env (joinLines .bare [] (rawLines (readable content)))

-- The content of the file `.env` in the working directory or the nearest one around that has it.
def find? (fs : FileSystem) : Option Octets :=
  (List.range (fs.here.length + 1)).findSome? fun k =>
    match fs.entry? (fs.here.take (fs.here.length - k) ++ [".env"]) with
    | some (.file content) => some content
    | _ => none

-- The environment of a program that starts in a file system.
def complete (fs : FileSystem) (env : Environment) : Environment :=
  match find? fs with
  | some content => load env content
  | none => env

end AnomalyDetection.EnvironmentFile
