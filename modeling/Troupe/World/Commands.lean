import Troupe.World.Engine

/-!
# Commands

What can be asked of a runtime from outside: to make, start and stop actors, to deliver
messages, to time out asks, and to begin anew over a saved store.  Every command that delivers
a message handles all that waits before it returns; `fuel` bounds how long that may take.
-/

namespace Troupe.World

/-- Register a schema for an event type. -/
def registerSchema (world : World) (event : String) (schema : Json) : World :=
  { world with schemas := world.schemas.register event schema }

/-- Carry out a store operation. -/
def execute (op : StoreOp) : Run (Except StoreError Json) := modifyGet fun world => world.write op

/-- Make an actor: its inbox, its context and its record, and then the inbox's owner.  A
malformed behavior or context makes nothing. -/
def createActor (spec : ActorSpec) : Run (Except RuntimeError Id) := do
  match Behavior.load spec.behavior (← get).config with
  | .error cause => return .error (.config cause)
  | .ok _ =>
    if !spec.context.isObject then
      return .error (.config (.invalidBehavior
        s!"initial context must be an object, found {spec.context.text}"))
    let inbox ← modifyGet makeInbox
    let context ← modifyGet fun world => world.make spec.context
    let actor ← modifyGet fun world => world.make (spec.config inbox context).toJson
    match ← modifyGet fun world => world.own inbox actor with
    | .ok _ => return .ok actor
    | .error cause => return .error (.store cause)

/-- Handle what waits; tells how many entries were handled. -/
def pump (fuel : Nat) : Run Nat := (engine fuel).pump

/-- Start an actor and handle what waits. -/
def spawn (fuel : Nat) (actor : Id) : Run (Except RuntimeError Unit) := do
  match ← (engine fuel).spawn actor with
  | .error error => return .error error
  | .ok () =>
    let _ ← pump fuel
    return .ok ()

/-- Stop an actor: its watch and its asks are dropped, its inbox and context stay.  Tells
whether it was running. -/
def stop (actor : Id) : Run Bool := do
  let world ← get
  match world.running.find? actor with
  | none => return false
  | some running =>
    if running.activity ≠ .idle then throw .deadlock
    set (world.dismiss actor running)
    return true

/-- Deliver a message and handle what waits. -/
def send (fuel : Nat) (target : Id) (message : Message) : Run (Except RuntimeError Id) :=
  (engine fuel).deliver target message

/-- Deliver a message without handling what waits. -/
def queue (fuel : Nat) (target : Id) (message : Message) : Run (Except RuntimeError Id) :=
  (engine fuel).post target message

/-- The actor that a text names. -/
def resolveTarget (target : String) : Except RoutingError Id :=
  match Id.ofText? target with
  | some id => .ok id
  | none => .error (.invalidTarget target)

/-- Deliver a message to the actor that a text names. -/
def sendTo (fuel : Nat) (target : String) (message : Message) :
    Run (Except RuntimeError Id) := do
  match resolveTarget target with
  | .error cause => return .error (.routing cause)
  | .ok id => send fuel id message

/-- Deliver a message that has no sender. -/
def tellActor (fuel : Nat) (target : Id) (event : String) (payload : Json) :
    Run (Except RuntimeError Id) :=
  send fuel target { type := event, payload }

/-- The stored context of an actor. -/
def context (world : World) (actor : Id) : Except RuntimeError Json := do
  let config ← world.actorConfig actor
  match world.store.read config.context with
  | some context => return context
  | none => throw (.store (.notFound config.context))

/-- Run an actor's tool. -/
def invoke (fuel : Nat) (actor : Id) (payload : Json) : Run (Except ActionError Json) :=
  (engine fuel).invoke actor payload

/-- The error that an ask without an answer ends in. -/
def timeoutError (world : World) (ask : PendingAsk) : ActionError :=
  let span := String.ofList (Nat.toDigits 10 world.config.askTimeout.toNat)
  ⟨.timeout, s!"no reply to '{ask.event}' from {ask.target.text} within {span} ms"⟩

/-- The message that tells an asker that its ask has timed out. -/
def timeoutMessage (world : World) (ask : PendingAsk) : Message :=
  { type := errorEvent, payload := (world.timeoutError ask).payload }

/-- Track one ask that has timed out and tell its asker. -/
def expireOne (fuel : Nat) (now : Int) (correlation : Id) (ask : PendingAsk) : Run Unit := do
  modify fun world => world.track correlation ask.asker now
  let world ← get
  let _ ← (engine fuel).post ask.asker (world.timeoutMessage ask)

/-- Time out every ask whose deadline has come, then handle what waits.  Tells how many asks
timed out. -/
def expireAsks (fuel : Nat) (now : Int) : Run Nat := do
  let overdue := (← get).overdue now
  modify fun world => world.timeOut now
  overdue.entries.forM fun entry => expireOne fuel now entry.1 entry.2
  if !overdue.entries.isEmpty then
    let _ ← pump fuel
  return overdue.size

/-- Save the store and begin anew over it: nothing runs, and of tools, schemas, asks, locks
and listeners nothing is left. -/
def restore? (world : World) (config : Config) : Option World := do
  let store ← world.store.reload?
  return { new config store world.correlations world.clock with
    journal := .restored :: world.journal }

end Troupe.World
