import Troupe.Json.Basic

/-!
# Decoding typed records

A record is read from the fields of an object.  Unknown fields do not matter; a field of the
wrong type refuses the record, and so does a missing one unless it is optional or has a
default.  An optional field may also be null; a field with a default may not.  A record may
also be written as a list of its fields in order, from which only last ones may be missing.
-/

namespace Troupe.Json

/-- A list whose every item decodes. -/
def list? {α : Type} (decode : Json → Option α) (value : Json) : Option (List α) := do
  (← value.items?).mapM decode

/-- An object whose every field decodes. -/
def table? {α : Type} (decode : Json → Option α) (value : Json) : Option (Table String α) := do
  let entries ← (← value.fields?).mapM fun field => (decode field.2).map fun v => (field.1, v)
  return Table.ofList entries

/-- A list of texts. -/
def strings? (value : Json) : Option (List String) := value.list? string?

/-- Any value at all. -/
def any? (value : Json) : Option Json := some value

/-- A record by the names of its fields: an object is one as it stands, and the items of a list
are its first fields. -/
def named? (names : List String) : Json → Option Json
  | .obj fields => some (.obj fields)
  | .arr items => if items.length ≤ names.length then some (.record (names.zip items)) else none
  | _ => none

/-- A field that must be there. -/
def required? {α : Type} (value : Json) (name : String) (decode : Json → Option α) : Option α :=
  (value.field? name).bind decode

/-- A field that may be missing or null. -/
def optional? {α : Type} (value : Json) (name : String) (decode : Json → Option α) :
    Option (Option α) :=
  match value.field? name with
  | none | some .null => some none
  | some content => (decode content).map some

/-- A field that may be missing. -/
def defaulted? {α : Type} (value : Json) (name : String) (decode : Json → Option α)
    (default : α) : Option α :=
  match value.field? name with
  | none => some default
  | some content => decode content

/-- A field for each value that is there. -/
def present {α : Type} (name : String) (encode : α → Json) : Option α → List (String × Json)
  | none => []
  | some value => [(name, encode value)]

/-- A table as an object. -/
def table {α : Type} (encode : α → Json) (table : Table String α) : Json :=
  .obj (table.entries.map fun entry => (entry.1, encode entry.2))

end Troupe.Json
