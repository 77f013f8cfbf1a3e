import GrafanaInstall.Json

/-!
# Schemas

The part of an OpenAPI schema that the manifest uses. A schema is printed into the manifest, and
the server admits an object only if the schema does.
-/

namespace GrafanaInstall

structure Schema.Notes where
  title : Option String := none
  description : Option String := none
  nullable : Bool := false
  default : Option Json := none

inductive Schema where
  /-- A text, one of some words if there are any. -/
  | string (notes : Schema.Notes) (words : List String)
  | object (notes : Schema.Notes) (properties : List (String × Schema)) (required : List String)
  | map (notes : Schema.Notes) (values : Schema)
  | array (notes : Schema.Notes) (items : Schema)

namespace Schema

def notes : Schema → Notes
  | .string notes _ | .object notes _ _ | .map notes _ | .array notes _ => notes

/-! ## Printing -/

def Notes.entries (n : Notes) : List (String × Json) :=
  (n.default.map fun value => ("default", value)).toList ++
    (n.description.map fun text => ("description", Json.string text)).toList ++
    (if n.nullable then [("nullable", .bool true)] else []) ++
    (n.title.map fun text => ("title", Json.string text)).toList

def words (key : String) (texts : List String) : List (String × Json) :=
  if texts.isEmpty then [] else [(key, .array (texts.map .string))]

mutual

def json : Schema → Json
  | .string notes enum =>
    .ofEntries (notes.entries ++ words "enum" enum ++ [("type", .string "string")])
  | .object notes properties required =>
    .ofEntries (notes.entries ++ [("properties", .object (propertiesJson properties))] ++
      words "required" required ++ [("type", .string "object")])
  | .map notes values =>
    .ofEntries (notes.entries ++
      [("additionalProperties", values.json), ("type", .string "object")])
  | .array notes items =>
    .ofEntries (notes.entries ++ [("items", items.json), ("type", .string "array")])

def propertiesJson : List (String × Schema) → List (String × Json)
  | [] => []
  | (name, schema) :: rest => (name, schema.json) :: propertiesJson rest

end

/-! ## Validity -/

mutual

/-- A property that is not described is let through, and one that is missing does no harm unless
it is required. -/
def admits : Schema → Json → Bool
  | .string notes _, .null | .object notes _ _, .null | .map notes _, .null
  | .array notes _, .null => notes.nullable
  | .string _ words, .string text => words.isEmpty || words.contains text
  | .object _ properties required, .object entries =>
    required.all (fun name => (entries.lookup name).isSome) && admitsEach properties entries
  | .map _ values, .object entries => entries.all fun (_, value) => values.admits value
  | .array _ items, .array values => values.all fun value => items.admits value
  | _, _ => false

def admitsEach : List (String × Schema) → List (String × Json) → Bool
  | [], _ => true
  | (name, schema) :: rest, entries =>
    ((entries.lookup name).map fun value => schema.admits value).getD true &&
      admitsEach rest entries

end

end Schema

end GrafanaInstall
