import Troupe.Error
import Troupe.Json.Decode

/-!
# Tool declarations

The parameters of a tool may be declared loosely, by a type name or a schema for each
parameter, or as an object schema.  Both are normalized to an object schema with `properties`
and `required`.  A loosely declared parameter is required unless it is marked optional or has
a default.
-/

namespace Troupe

/-- The declaration of a tool. -/
structure ToolDefinition where
  /-- Name of the tool. -/
  name : String
  /-- What it does, in words. -/
  description : String
  /-- Object schema of the payload. -/
  parameters : Json

namespace ToolDefinition

/-- A declaration is malformed. -/
def invalid (tool reason : String) : ConfigError :=
  .invalidAction .function s!"tool '{tool}': {reason}"

/-- Whether a declaration is an object schema already. -/
def isSchema (declared : List (String × Json)) : Bool :=
  Assoc.contains "properties" declared
    || ((Assoc.find? "type" declared).map (Json.same (.str "object"))).getD false

/-- A field, with a given value if it is missing. -/
def withDefault (name : String) (value : Json) (fields : List (String × Json)) :
    List (String × Json) :=
  if Assoc.contains name fields then fields else Assoc.insert name value fields

/-- Complete an object schema. -/
def completed (declared : List (String × Json)) : Json :=
  .obj (withDefault "required" (.arr [])
    (withDefault "properties" .empty (Assoc.insert "type" (.str "object") declared)))

/-- The schema of one loosely declared parameter, and whether it is required. -/
def parameter (tool : String) (name : String) (spec : Json) : Except ConfigError (Json × Bool) :=
  match spec with
  | .str type => .ok (.record [("type", .str type)], true)
  | .obj fields =>
    let optional := ((Assoc.find? "optional" fields).map (Json.same (.bool true))).getD false
    let property := Assoc.erase "optional" fields
    .ok (.obj property, !optional && !Assoc.contains "default" property)
  | other =>
    .error (invalid tool
      s!"parameter '{name}' must be a type name or object, found {other.text}")

/-- The object schema of loosely declared parameters. -/
def ofParameters (parameters : List (String × Json × Bool)) : Json :=
  .record
    [("type", .str "object"),
      ("properties", .record (parameters.map fun p => (p.1, p.2.1))),
      ("required", .strings ((parameters.filter fun p => p.2.2).map Prod.fst))]

/-- Normalize the declared parameters of a tool. -/
def normalize (tool : String) (declared : Json) : Except ConfigError Json :=
  match declared with
  | .null => .ok (ofParameters [])
  | .obj declared =>
    if isSchema declared then .ok (completed declared)
    else do
      let parameters ← declared.mapM fun field => do
        let (property, isRequired) ← parameter tool field.1 field.2
        return (field.1, property, isRequired)
      return ofParameters parameters
  | other => .error (invalid tool s!"parameters must be an object, found {other.text}")

/-- The declaration of a tool with normalized parameters. -/
def declare (name description : String) (parameters : Json) :
    Except ConfigError ToolDefinition := do
  return ⟨name, description, ← normalize name parameters⟩

/-- The names of required parameters. -/
def required (definition : ToolDefinition) : List String :=
  match definition.parameters.field? "required" with
  | some (.arr names) => Json.stringItems names
  | _ => []

/-- A declaration as a record. -/
def toJson (definition : ToolDefinition) : Json :=
  .record
    [("name", .str definition.name), ("description", .str definition.description),
      ("parameters", definition.parameters)]

end ToolDefinition

end Troupe
