import Troupe.Actor
import Troupe.Message
import Troupe.Schema.Check
import Troupe.Schema.Registry
import Troupe.Store.Basic

/-!
# Inboxes

An inbox is an object whose field `entries` lists the identifiers of stored messages, oldest
first.  Posting a message stores it as an object of its own and appends its identifier to the
inbox of the receiver.  Before a stored message reaches a behavior it is checked against the
interface of the receiver and the schema of its event type, and fails closed: without a schema
nothing is accepted.
-/

namespace Troupe

/-- What checking a message comes to. -/
inductive Verdict where
  /-- The payload to hand on, with the key of the message. -/
  | valid (payload : Json)
  /-- What is wrong with the message. -/
  | invalid (errors : List String)

namespace Inbox

/-- The field that lists the messages. -/
def entriesField : String := "entries"

/-- The messages that an inbox lists; items that are no identifiers do not count. -/
def entries (inbox : Json) : List Id :=
  match inbox.field? entriesField with
  | some (.arr items) => items.filterMap Json.id?
  | _ => []

/-- The messages that an inbox in a store lists; one that is not there lists none. -/
def listed (store : Store) (inbox : Id) : List Id := ((store.read inbox).map entries).getD []

/-- An entry that is passed over. -/
structure Skip where
  /-- Its place in the inbox. -/
  position : Nat
  /-- The message that is listed there. -/
  message : Id
  /-- The message as it was found; none if it cannot be read. -/
  found : Option Entry

/-- What a look at some entries of an inbox finds. -/
structure Look where
  /-- The entries that are passed over, in order. -/
  passed : List Skip
  /-- The first entry that is to be handled, with its place. -/
  next : Option (Nat × Id × Entry)
  /-- The place behind what was looked at. -/
  cursor : Nat

/-- Look at entries from a place on: pass over those that cannot be read or have been handled,
up to the first that is to be handled. -/
def look (store : Store) : (position : Nat) → List Id → Look
  | position, [] => ⟨[], none, position⟩
  | position, id :: rest =>
    let found := (store.read id).bind Entry.ofJson?
    match found.filter fun entry => !entry.processed with
    | some entry => ⟨[], some (position, id, entry), position + 1⟩
    | none =>
      let later := look store (position + 1) rest
      { later with passed := ⟨position, id, found⟩ :: later.passed }

/-- The schema of an event type for an actor: its own, else the registered one. -/
def schemaFor? (schemas : Schema.Registry) (actor : Actor) (event : String) : Option Json :=
  (actor.config.schemas.find? event).or ((schemas.find? event).map Schema.Definition.schema)

/-- The payload that is handed on: its fields, or the field `value` for anything that is no
object, and the key of the message in place of any that the sender gave. -/
def keyed (message : Id) (payload : Json) : Json :=
  let fields := match payload with
    | .obj fields => fields
    | other => [("value", other)]
  .obj (Assoc.insert keyField (.str (messageKey message)) fields)

/-- Check a message for an actor. -/
def validate (schemas : Schema.Registry) (mutationEvent : String) (actor : Actor) (message : Id)
    (event : String) (payload : Json) : Verdict :=
  if !actor.config.accepts event then
    .invalid [s!"'{event}' is not in the interface of actor {actor.id.text}"]
  else
    match schemaFor? schemas actor event with
    | none => .invalid [s!"no schema for '{event}'"]
    | some schema =>
      match Schema.validate schema payload with
      | [] =>
        if event = mutationEvent ∧ (payload.field? "op").isNone then
          .invalid ["mutation payload must be an object with an 'op' field"]
        else .valid (keyed message payload)
      | errors => .invalid errors

/-- Parts of the runtime that need a store have none. -/
def noStore : RuntimeError := .infrastructure "no store configured"

/-- The configuration record of an actor. -/
def readConfig (store : Option Store) (actor : Id) : Except RuntimeError Json :=
  match store with
  | none => .error noStore
  | some store =>
    match store.read actor with
    | some record => .ok record
    | none => .error (.routing (.configUnreadable actor))

/-- The inbox of an actor: that of the running actor, else the one that its record names. -/
def inboxOf (store : Option Store) (live : Option Id) (target : Id) : Except RuntimeError Id :=
  match live with
  | some inbox => .ok inbox
  | none => do
    match ActorConfig.inboxOf? (← readConfig store target) with
    | some inbox => return inbox
    | none => throw (.routing (.missingInbox target))

/-- Store a message and append it to an inbox.  A message whose inbox cannot be pushed to
stays behind as an object that no inbox lists. -/
def append (store : Store) (inbox target : Id) (message : Message) :
    Except RuntimeError Id × Store :=
  let id := store.supply.next
  let (_, store) := store.create (Entry.pending target message).toJson none
  match store.push inbox entriesField (.id id) with
  | .ok (_, store) => (.ok id, store)
  | .error (.notFound _) => (.error (.routing (.inboxNotFound inbox)), store)
  | .error cause => (.error (.store cause), store)

/-- Put a message into the inbox of an actor. -/
def post (store : Store) (live : Option Id) (target : Id) (message : Message) :
    Except RuntimeError Id × Store :=
  match inboxOf (some store) live target with
  | .error error => (.error error, store)
  | .ok inbox => append store inbox target message

end Inbox

end Troupe
