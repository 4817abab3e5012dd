namespace AnomalyDetection.Http.MediaType

-- The characters of tokens.
def isTokenChar (c : Char) : Bool :=
  c.isAlphanum || "!#$%&'*+-.^_`|~".toList.contains c

-- Characters between the quotes of a parameter value: those of ASCII that have a shape, and blanks.
def isQuotedChar (c : Char) : Bool :=
  31 < c.toNat && c.toNat < 127

-- Where in its parameters a media type is.
inductive Place
  | gap
  | name
  | equals
  | value
  | opened
  | quoted
  | closed

-- The place behind one more character, if that may stand there. A quoted value has at least one
-- character, so that a quote right behind the opening one belongs to it.
def Place.next? (p : Place) (c : Char) : Option Place :=
  match p with
  | gap => if c = ' ' then some gap else if isTokenChar c then some name else none
  | name => if c = '=' then some equals else if isTokenChar c then some name else none
  | equals => if c = '"' then some opened else if isTokenChar c then some value else none
  | value => if c = ';' then some gap else if isTokenChar c then some value else none
  | opened => if isQuotedChar c then some quoted else none
  | quoted => if c = '"' then some closed else if isQuotedChar c then some quoted else none
  | closed => if c = ';' then some gap else if c = ' ' then some closed else none

-- Whether the parameters may end there.
def Place.isEnd : Place → Bool
  | gap => true
  | equals => true
  | value => true
  | closed => true
  | _ => false

-- Whether a text is a list of parameters `name=value`, with semicolons between them and perhaps one
-- at the end. The last value may be missing.
def areParameters (s : List Char) : Bool :=
  (s.foldlM Place.next? .gap).any Place.isEnd

-- The part of a subtype before its last plus sign, and the suffix behind it. A plus sign in front
-- belongs to the subtype.
def suffixed : List Char → List Char × Option (List Char)
  | [] => ([], none)
  | c :: s =>
    if s.contains '+' then
      let back := s.reverse.takeWhile (· != '+')
      (c :: s.take (s.length - back.length - 1), some back.reverse)
    else (c :: s, none)

-- Whether a media type is `application/json`, with or without a suffix, or has the suffix `+json`,
-- in any case and with any parameters.
def isJson (s : List Char) : Bool :=
  let top := s.takeWhile isTokenChar
  match s.drop top.length with
  | '/' :: rest =>
    let sub := rest.takeWhile isTokenChar
    let (subtype, suffix) := suffixed (sub.map Char.toLower)
    top.map Char.toLower == "application".toList &&
    (subtype == "json".toList || suffix == some "json".toList) &&
    match rest.drop sub.length with
    | [] => true
    | ';' :: rest => areParameters rest
    | _ => false
  | _ => false

end AnomalyDetection.Http.MediaType
