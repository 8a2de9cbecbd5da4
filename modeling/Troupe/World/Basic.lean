import Troupe.Behavior.Basic
import Troupe.Inbox
import Troupe.Store.Image
import Troupe.Tool.Registry
import Troupe.World.Queue

/-!
# The state of a runtime

Everything that a runtime holds, as one value: the store, the running actors, the queue of
actors that have something to do, and the asks that wait for an answer or have timed out.
-/

namespace Troupe

/-- What a running actor is doing. -/
inductive Activity where
  /-- Nothing: it waits for its turn. -/
  | idle
  /-- Its start pass is under way. -/
  | starting
  /-- An entry of its inbox is being handled; the inbox listed so many when it was picked. -/
  | handling (listed : Nat)
deriving DecidableEq

/-- An actor that is running. -/
structure Running where
  /-- What its record said when it was started. -/
  config : ActorConfig
  /-- Its behavior. -/
  behavior : Behavior
  /-- What the behavior remembers. -/
  memory : Memory
  /-- How many entries of its inbox it has passed. -/
  cursor : Nat := 0
  /-- The token of the watch on its inbox. -/
  subscription : Nat
  /-- What it is doing. -/
  activity : Activity := .idle

/-- An ask that waits for its answer. -/
structure PendingAsk where
  /-- Who asked. -/
  asker : Id
  /-- Who was asked. -/
  target : Id
  /-- Event type of the request. -/
  event : String
  /-- When it times out. -/
  deadline : Int
deriving DecidableEq

/-- An ask that has timed out; an answer that comes now is dropped. -/
structure ExpiredAsk where
  /-- Who asked. -/
  asker : Id
  /-- When it timed out. -/
  expiredAt : Int
deriving DecidableEq

/-- Something that has happened in a runtime. -/
inductive Note where
  /-- An actor was created with a new inbox. -/
  | made (inbox : Id)
  /-- An actor began to run, with this inbox. -/
  | spawned (actor inbox : Id)
  /-- An actor was stopped. -/
  | stopped (actor : Id)
  /-- The runtime began anew over a saved store. -/
  | restored
  /-- A behavior, a tool or someone outside wrote an object. -/
  | wrote (object : Id) (op : StoreOp)
  /-- A message was sent; whether it arrives is another matter. -/
  | sent (target : Id) (message : Message)
  /-- A message was stored and listed in an inbox. -/
  | posted (message inbox : Id)
  /-- An actor passed over an entry of its inbox; `found` is the entry, if it could be read. -/
  | passed (actor inbox : Id) (position : Nat) (message : Id) (found : Option Entry)
  /-- An actor began to handle an entry of its inbox. -/
  | taken (actor inbox : Id) (position : Nat) (message : Id) (entry : Entry)
  /-- A message was marked as handled. -/
  | marked (message : Id)
  /-- An actor asked. -/
  | asked (correlation : Id) (ask : PendingAsk)
  /-- A message that its asker handled answered an ask. -/
  | answered (correlation asker message : Id)
  /-- An ask without an answer timed out. -/
  | timedOut (correlation : Id) (ask : PendingAsk) (now : Int)
  /-- The asker of an ask without an answer was stopped. -/
  | abandoned (correlation asker : Id)

/-- A clock in milliseconds. -/
structure Clock where
  /-- The present time. -/
  now : Int
  /-- The last time that can be told. -/
  latest : Int

namespace Clock

/-- A time later by some milliseconds, unless that is past the last time. -/
def later? (clock : Clock) (time span : Int) : Option Int :=
  if time + span ≤ clock.latest then some (time + span) else none

end Clock

/-- The state of a runtime. -/
structure World where
  /-- Settings. -/
  config : Config
  /-- The object store. -/
  store : Store
  /-- Registered schemas. -/
  schemas : Schema.Registry
  /-- Registered tools. -/
  tools : ToolRegistry := {}
  /-- Running actors. -/
  running : Table Id Running := ∅
  /-- Actors that have something to do. -/
  ready : ReadyQueue := {}
  /-- Whether queued actors are being served. -/
  pumping : Bool := false
  /-- Asks without an answer, by correlation. -/
  pending : Table Id PendingAsk := ∅
  /-- Asks that timed out, by correlation. -/
  expired : Table Id ExpiredAsk := ∅
  /-- Where correlations come from. -/
  correlations : Supply
  /-- The clock. -/
  clock : Clock
  /-- What is run when an actor is to be rendered again. -/
  onRerender : Option (Id → Script Unit) := none
  /-- Actors to be rendered again, with their states at that time, oldest first. -/
  rerenders : List (Id × Option String) := []
  /-- Calls made to listeners outside, oldest first. -/
  notified : List Call := []
  /-- What has happened, latest first. -/
  journal : List Note := []

/-- Why a call into the runtime does not return. -/
inductive Halt where
  /-- A tool broke off. -/
  | panic
  /-- A pass waits for itself to end. -/
  | deadlock
  /-- The steps that were granted are used up. -/
  | exhausted
deriving DecidableEq

/-- A computation on the state of a runtime.  One that halts leaves the state as it was at
that point. -/
abbrev Run := EStateM Halt World

namespace World

/-- A runtime over a store, with no actor running. -/
def new (config : Config) (store : Store) (correlations : Supply) (clock : Clock) : World :=
  { config, store, schemas := Schema.Registry.initial config.mutationEvent, correlations, clock }

/-- The inbox of a running actor. -/
def liveInbox? (world : World) (actor : Id) : Option Id :=
  (world.running.find? actor).map fun running => running.config.inbox

/-- Change what is known of a running actor. -/
def updateRunning (world : World) (actor : Id) (change : Running → Running) : World :=
  match world.running.find? actor with
  | some running => { world with running := world.running.insert actor (change running) }
  | none => world

/-- The current state of a running state machine. -/
def currentState? (world : World) (actor : Id) : Option String := do
  (← world.running.find? actor).memory.state

/-- The transitions that a running state machine remembers. -/
def history (world : World) (actor : Id) : List Transition :=
  ((world.running.find? actor).map fun running => running.memory.history).getD []

/-- The configuration of an actor, from its record. -/
def actorConfig (world : World) (actor : Id) : Except RuntimeError ActorConfig := do
  match ActorConfig.ofJson? (← Inbox.readConfig (some world.store) actor) with
  | some config => return config
  | none => throw (.config (.invalidActor actor))

/-- The configuration of an actor, as an action asks for it. -/
def configForAction (world : World) (actor : Id) : Except ActionError ActorConfig := do
  let record ← (Inbox.readConfig (some world.store) actor).mapError ActionError.ofRuntime
  match ActorConfig.ofJson? record with
  | some config => return config
  | none => throw (.structural (ConfigError.invalidActor actor).message)

/-- The event types that an actor accepts. -/
def interfaceOf (world : World) (actor : Id) : Except ActionError (List String) := do
  return (← world.configForAction actor).interface

end World

end Troupe
