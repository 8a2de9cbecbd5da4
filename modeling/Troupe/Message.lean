import Troupe.Hash.Blake3
import Troupe.Json.Decode

/-!
# Messages, inbox entries and events

A message is what an actor sends; an inbox entry is a message as it is stored, with its
receiver and a mark for being handled; an event is what a behavior receives.
-/

namespace Troupe

/-- The event that tells an actor of a success. -/
def successEvent : String := "SUCCESS"

/-- The event that tells an actor of a failure. -/
def errorEvent : String := "ERROR"

/-- A message before it is stored. -/
structure Message where
  /-- Event type. -/
  type : String
  /-- Payload of the event. -/
  payload : Json
  /-- Who sends it. -/
  source : Option Id := none
  /-- The ask that it belongs to. -/
  correlation : Option Id := none
  /-- Whether the runtime sends it by itself, to tell of a failure.  It is not stored, and nobody
  looks at it; it is there to say how often that happens. -/
  automatic : Bool := false

namespace Message

/-- The message as anybody else would send it. -/
def plain (message : Message) : Message := { message with automatic := false }

/-- A message as a record; what it lacks is left out. -/
def toJson (message : Message) : Json :=
  .record ([("type", .str message.type), ("payload", message.payload)]
    ++ Json.present "source" .id message.source
    ++ Json.present "correlation" .id message.correlation)

/-- The message that a record describes. -/
def ofJson? (record : Json) : Option Message := do
  let value ← record.named? ["type", "payload", "source", "correlation"]
  return {
    type := ← value.required? "type" Json.string?
    payload := ← value.required? "payload" Json.any?
    source := ← value.optional? "source" Json.id?
    correlation := ← value.optional? "correlation" Json.id? }

end Message

/-- A stored message. -/
structure Entry where
  /-- Event type. -/
  type : String
  /-- Payload of the event. -/
  payload : Json
  /-- Who sent it. -/
  source : Option Id
  /-- Who receives it. -/
  target : Id
  /-- The ask that it belongs to. -/
  correlation : Option Id
  /-- Whether it has been handled. -/
  processed : Bool

namespace Entry

/-- The entry for a message that has not been handled. -/
def pending (target : Id) (message : Message) : Entry :=
  ⟨message.type, message.payload, message.source, target, message.correlation, false⟩

/-- An entry as a record; what it lacks is left out. -/
def toJson (entry : Entry) : Json :=
  .record ([("type", .str entry.type), ("payload", entry.payload), ("target", .id entry.target),
      ("processed", .bool entry.processed)]
    ++ Json.present "source" .id entry.source
    ++ Json.present "correlation" .id entry.correlation)

/-- The entry that a record describes. -/
def ofJson? (record : Json) : Option Entry := do
  let value ←
    record.named? ["type", "payload", "source", "target", "correlation", "processed"]
  return {
    type := ← value.required? "type" Json.string?
    payload := ← value.required? "payload" Json.any?
    source := ← value.optional? "source" Json.id?
    target := ← value.required? "target" Json.id?
    correlation := ← value.optional? "correlation" Json.id?
    processed := ← value.required? "processed" Json.bool? }

end Entry

/-- The payload field that carries the key of the message. -/
def keyField : String := "idempotencyKey"

/-- The key that belongs to a stored message. -/
def messageKey (id : Id) : String := "idem_" ++ Blake3.hashText id.bytes

/-- An event, as a behavior sees it. -/
structure Event where
  /-- Event type. -/
  name : String
  /-- Payload; a delivered one carries the key of its message. -/
  payload : Json
  /-- Who sent it. -/
  source : Option Id := none
  /-- The ask that it belongs to. -/
  correlation : Option Id := none

namespace Event

/-- The key in the payload. -/
def key? (event : Event) : Option String := (event.payload.field? keyField).bind Json.string?

end Event

end Troupe
