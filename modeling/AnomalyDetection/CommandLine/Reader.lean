import AnomalyDetection.CommandLine.Page
import AnomalyDetection.Text.Split

namespace AnomalyDetection

inductive Command
  | serve
  | importFile (path : String) (id : Option String)
  deriving DecidableEq

namespace CommandLine

-- What makes a command line no command: it asks for a text, or it is misused.
inductive Stop
  | help (page : Page)
  | version
  | unknownArgument
  | unknownCommand
  | badValue
  | unwantedValue
  | missingArgument
  | repeatedOption
  deriving DecidableEq

-- How an argument looks.
inductive Form
  | word
  -- Two dashes alone: all that follows are words.
  | wordsFollow
  | long (name : String) (value : Option String)
  -- One dash and the letters behind it.
  | short (letter : Char)

-- The form of an argument. A dash alone is a word.
def form (arg : String) : Form :=
  match arg.toList with
  | ['-', '-'] => .wordsFollow
  | '-' :: '-' :: s =>
    let name := s.takeWhile (· ≠ '=')
    .long (String.ofList name)
      (match s.drop name.length with
       | _ :: value => some (String.ofList value)
       | [] => none)
  | '-' :: letter :: _ => .short letter
  | _ => .word

-- The page of a command.
def page? (word : String) : Option Page :=
  if word = "serve" then some .serve
  else if word = "import" then some .importFile
  else if word = "help" then some .help
  else none

-- What asking for a page with a value comes to.
def helpStop (page : Page) (value : Option String) : Stop :=
  if value = none then .help page else .unwantedValue

-- Reads what follows `serve`: nothing but a call for help.
def readServe : List String → Except Stop Command
  | [] => .ok .serve
  | arg :: rest =>
    match form arg with
    | .wordsFollow => if rest = [] then .ok .serve else .error .unknownArgument
    | .long "help" value => .error (helpStop .serve value)
    | .short 'h' => .error (.help .serve)
    | _ => .error .unknownArgument

-- An argument of `import` that is not complete yet.
inductive Pending
  | nothing
  | path (path : String)
  | id (value : Option String)
  deriving DecidableEq

-- What has been read of `import`.
structure Import where
  path : Option String
  id : Option String
  pending : Pending

namespace Import

-- Completes the pending argument.
def settle (i : Import) : Except Stop Import :=
  match i.pending with
  | .nothing => .ok i
  | .path "" => .error .badValue
  | .path path => .ok { i with path := some path, pending := .nothing }
  | .id none => .error .badValue
  | .id (some id) =>
    if i.id.isSome then .error .repeatedOption
    else .ok { i with id := some id, pending := .nothing }

-- Whether there is a path already.
def hasPath (i : Import) : Bool :=
  i.path.isSome || (match i.pending with
    | .path _ => true
    | _ => false)

def addWord (i : Import) (word : String) : Except Stop Import :=
  if i.hasPath then .error .unknownArgument
  else i.settle.map ({ · with pending := .path word })

def addOption (i : Import) (name : String) (value : Option String) : Except Stop Import :=
  if name = "id" then do
    let i := { ← i.settle with pending := .id value }
    if value.isSome then i.settle else return i
  else if name = "help" then
    if value.isSome then .error .unwantedValue
    else do
      let _ ← i.settle
      throw (.help .importFile)
  else .error .unknownArgument

-- Reads the arguments in order; `words` says that all that follow are words. The first misuse
-- counts. What an argument gives is looked at only when the next known argument shows that it is
-- complete, or the end does.
def read (i : Import) (words : Bool) : List String → Except Stop Import
  | [] => i.settle
  | arg :: rest =>
    if words then do
      let i ← i.addWord arg
      i.read true rest
    else match form arg with
      | .wordsFollow => i.read true rest
      | .long name value => do
        let i ← i.addOption name value
        i.read false rest
      | .short letter =>
        if letter = 'h' then do
          let _ ← i.settle
          throw (.help .importFile)
        else .error .unknownArgument
      | .word =>
        if i.pending = .id none then
          { i with pending := .id (some arg) }.read false rest
        else do
          let i ← i.addWord arg
          i.read false rest

end Import

-- Reads what follows `import`.
def readImport (args : List String) : Except Stop Command := do
  let i ← Import.read ⟨none, none, .nothing⟩ false args
  match i.path with
  | some path => return .importFile path i.id
  | none => throw .missingArgument

-- Reads what follows `help`: at most one command.
def readHelp : List String → Stop
  | [] => .help .overview
  | [word] => ((page? word).map .help).getD .unknownCommand
  | _ => .unknownCommand

-- The command of a command line, if there is one.
def read : List String → Except Stop (Option Command)
  | [] => .ok none
  | arg :: rest =>
    match form arg with
    | .wordsFollow =>
      match rest with
      | [] => .ok none
      | word :: _ => .error (if (page? word).isSome then .unknownArgument else .unknownCommand)
    | .long "help" value => .error (helpStop .overview value)
    | .long "version" value => .error (if value = none then .version else .unwantedValue)
    | .long .. => .error .unknownArgument
    | .short 'h' => .error (.help .overview)
    | .short 'V' => .error .version
    | .short _ => .error .unknownArgument
    | .word =>
      match page? arg with
      | some .serve => (readServe rest).map some
      | some .importFile => (readImport rest).map some
      | some _ => .error (readHelp rest)
      | none => .error .unknownCommand

end CommandLine
end AnomalyDetection
