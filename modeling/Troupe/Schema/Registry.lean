import Troupe.Json.Printer
import Troupe.Message

/-!
# Registered schemas

The schemas of payloads by event type, each with the hash of its definition.  A registry
starts with the schemas of replies and of store mutations.
-/

namespace Troupe

namespace Schema

/-- A registered schema. -/
structure Definition where
  /-- Event type. -/
  name : String
  /-- Schema of the payload. -/
  schema : Json
  /-- Hash of the name and the schema. -/
  hash : String

/-- A definition as a record. -/
def Definition.toJson (definition : Definition) : Json :=
  .record
    [("name", .str definition.name), ("schema", definition.schema),
      ("hash", .str definition.hash)]

/-- The text that is hashed: the name, a bar and the schema's compact text. -/
def hashedText (name : String) (schema : Json) : String := name ++ "|" ++ schema.text

/-- The hash that tells definitions apart. -/
def hash (name : String) (schema : Json) : String :=
  Blake3.hashText (hashedText name schema).toUTF8.data.toList

/-- Schemas by event type. -/
structure Registry where
  /-- The definitions, by name. -/
  definitions : Table String Definition

namespace Registry

/-- Register a schema, in place of the one that the event type had. -/
def register (registry : Registry) (name : String) (schema : Json) : Registry :=
  ⟨registry.definitions.insert name ⟨name, schema, hash name schema⟩⟩

/-- The definition for an event type. -/
def find? (registry : Registry) (name : String) : Option Definition :=
  registry.definitions.find? name

/-- The schema of a type name. -/
def ofType (name : String) : Json := .record [("type", .str name)]

/-- The schema of the payload of an ERROR event: a list of errors with kind and message. -/
def errorSchema : Json :=
  let entry := Json.record
    [("type", .str "object"), ("required", .strings ["kind", "message"]),
      ("properties", .record [("kind", ofType "string"), ("message", ofType "string")])]
  .record
    [("type", .str "object"), ("required", .strings ["errors"]),
      ("properties", .record
        [("errors", .record [("type", .str "array"), ("items", entry)])])]

/-- The registry with the schemas of replies and of the event for store mutations. -/
def initial (mutationEvent : String) : Registry :=
  (((⟨∅⟩ : Registry).register successEvent (ofType "object")).register errorEvent
    errorSchema).register mutationEvent
      (.record [("type", .str "object"), ("required", .strings ["op"])])

theorem find?_register (registry : Registry) (name other : String) (schema : Json) :
    (registry.register name schema).find? other =
      if name = other then some ⟨name, schema, hash name schema⟩ else registry.find? other :=
  Table.find?_insert ..

end Registry

end Schema

end Troupe
