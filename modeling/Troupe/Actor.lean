import Troupe.Json.Decode

/-!
# Actors

An actor is known by the identifier of its configuration record, which names its inbox, its
context, the events it accepts, its behavior and the tool it may run.
-/

namespace Troupe

/-- The configuration record of an actor. -/
structure ActorConfig where
  /-- Event types that the actor accepts. -/
  interface : List String
  /-- The inbox object. -/
  inbox : Id
  /-- The context object. -/
  context : Id
  /-- Definition of the behavior. -/
  behavior : Json
  /-- Tool that the actor may run. -/
  function : Option String := none
  /-- Children by name. -/
  children : Table String Id := ∅
  /-- The actor's own payload schemas by event type. -/
  schemas : Table String Json := ∅

namespace ActorConfig

/-- A table as a field, left out when it is empty. -/
def tableField {α : Type} (name : String) (encode : α → Json) (table : Table String α) :
    List (String × Json) :=
  if table.entries.isEmpty then [] else [(name, .table encode table)]

/-- A configuration as a record; what it lacks is left out. -/
def toJson (config : ActorConfig) : Json :=
  .record ([("interface", .strings config.interface), ("inbox", .id config.inbox),
      ("context", .id config.context), ("behavior", config.behavior)]
    ++ Json.present "function" .str config.function
    ++ tableField "children" .id config.children
    ++ tableField "schemas" (fun schema => schema) config.schemas)

/-- The configuration that a record describes. -/
def ofJson? (record : Json) : Option ActorConfig := do
  let value ← record.named?
    ["interface", "inbox", "context", "behavior", "function", "children", "schemas"]
  return {
    interface := ← value.required? "interface" Json.strings?
    inbox := ← value.required? "inbox" Json.id?
    context := ← value.required? "context" Json.id?
    behavior := ← value.required? "behavior" Json.any?
    function := ← value.optional? "function" Json.string?
    children := ← value.defaulted? "children" (Json.table? Json.id?) ∅
    schemas := ← value.defaulted? "schemas" (Json.table? Json.any?) ∅ }

/-- The inbox that a record names, whatever else it holds. -/
def inboxOf? (record : Json) : Option Id := (record.field? "inbox").bind Json.id?

/-- Whether the actor accepts an event type. -/
def accepts (config : ActorConfig) (event : String) : Bool := config.interface.contains event

/-- The child of a name. -/
def child? (config : ActorConfig) (name : String) : Option Id := config.children.find? name

end ActorConfig

/-- What a new actor is made from. -/
structure ActorSpec where
  /-- Event types that the actor accepts. -/
  interface : List String
  /-- Definition of the behavior. -/
  behavior : Json
  /-- Initial context. -/
  context : Json := .empty
  /-- Tool that the actor may run. -/
  function : Option String := none
  /-- Children by name. -/
  children : Table String Id := ∅
  /-- The actor's own payload schemas by event type. -/
  schemas : Table String Json := ∅

namespace ActorSpec

/-- A specification as a record; nothing is left out. -/
def toJson (spec : ActorSpec) : Json :=
  .record
    [("interface", .strings spec.interface), ("behavior", spec.behavior),
      ("context", spec.context),
      ("function", (spec.function.map Json.str).getD .null),
      ("children", .table .id spec.children),
      ("schemas", .table (fun schema => schema) spec.schemas)]

/-- The specification that a record describes. -/
def ofJson? (record : Json) : Option ActorSpec := do
  let value ←
    record.named? ["interface", "behavior", "context", "function", "children", "schemas"]
  return {
    interface := ← value.required? "interface" Json.strings?
    behavior := ← value.required? "behavior" Json.any?
    context := ← value.defaulted? "context" Json.any? .empty
    function := ← value.optional? "function" Json.string?
    children := ← value.defaulted? "children" (Json.table? Json.id?) ∅
    schemas := ← value.defaulted? "schemas" (Json.table? Json.any?) ∅ }

/-- The configuration of an actor with a given inbox and context. -/
def config (spec : ActorSpec) (inbox context : Id) : ActorConfig :=
  ⟨spec.interface, inbox, context, spec.behavior, spec.function, spec.children, spec.schemas⟩

end ActorSpec

/-- An actor. -/
structure Actor where
  /-- Identifier of the configuration record. -/
  id : Id
  /-- What the record says. -/
  config : ActorConfig

end Troupe
