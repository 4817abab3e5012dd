import AnomalyDetection.Json.Basic

namespace AnomalyDetection.OpenApi

inductive Kind
  | string
  | instant
  | boolean
  | double
  | natural (format : Option String)
  | anything
  | list (item : Kind)
  | schema (name : String)

-- A member of an object. An optional one may be null.
structure Property where
  name : String
  kind : Kind
  optional : Bool
  required : Bool
  note : Option String

namespace Property

-- A member that has to be there.
def needed (name : String) (kind : Kind) : Property := ⟨name, kind, false, true, none⟩

-- A member that has a default.
def defaulted (name : String) (kind : Kind) : Property := ⟨name, kind, false, false, none⟩

-- A member that may be missing or null.
def maybe (name : String) (kind : Kind) : Property := ⟨name, kind, true, false, none⟩

def described (p : Property) (note : String) : Property := { p with note := some note }

end Property

-- A named schema.
inductive Schema
  | record (name : String) (note : Option String) (properties : List Property)
  | choice (name : String) (variants : List String)

-- The reference to a named schema.
def reference (name : String) : Json :=
  .object [("$ref", .string ("#/components/schemas/" ++ name))]

def noted (note : Option String) : List (String × Json) :=
  (note.map fun s => ("description", Json.string s)).toList

namespace Kind

def typed (name : String) (optional : Bool) (more : List (String × Json)) : Json :=
  .object (("type", if optional then .array [.string name, .string "null"] else .string name) ::
    more)

def toJson (k : Kind) (optional : Bool) (more : List (String × Json)) : Json :=
  match k with
  | string => typed "string" optional more
  | instant => typed "string" optional (("format", .string "date-time") :: more)
  | boolean => typed "boolean" optional more
  | double => typed "number" optional (("format", .string "double") :: more)
  | natural format =>
    typed "integer" optional
      ((format.map fun s => ("format", Json.string s)).toList ++ ("minimum", .natural 0) :: more)
  | anything => typed "object" optional more
  | list item => typed "array" optional (("items", item.toJson false []) :: more)
  | schema name =>
    if optional then .object (("oneOf", .array [typed "null" false [], reference name]) :: more)
    else match reference name with
      | .object ms => .object (ms ++ more)
      | j => j

end Kind

def Property.toJson (p : Property) : Json :=
  p.kind.toJson p.optional (noted p.note)

namespace Schema

def name : Schema → String
  | record name .. => name
  | choice name _ => name

def toJson : Schema → Json
  | record _ note properties =>
    let required := (properties.filter (·.required)).map fun p => Json.string p.name
    .object <|
      ("type", .string "object") :: noted note ++
      (if required = [] then [] else [("required", .array required)]) ++
      [("properties", .object (properties.map fun p => (p.name, p.toJson)))]
  | choice _ variants =>
    .object [("type", .string "string"), ("enum", .array (variants.map .string))]

end Schema
end AnomalyDetection.OpenApi
