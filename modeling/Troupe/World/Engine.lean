import Troupe.World.Moves

/-!
# Running passes

The requests of passes and scripts, carried out on the state of a runtime.  Two of them lead
back into it: a delivery may spawn its target, whose start is a pass of its own, and a tool may
have the runtime handle what waits.  Both are parameters here, an `Engine`.
-/

namespace Troupe

/-- The ways back into the runtime. -/
structure Engine where
  /-- Start an actor from its configuration record. -/
  spawn : Id → Run (Except RuntimeError Unit)
  /-- Handle what waits; tells how many entries were handled. -/
  pump : Run Nat

namespace Engine

/-- Put a message into an inbox, then queue its target, or spawn it if it is not running.  A
spawn that fails leaves the message in the inbox. -/
def post (engine : Engine) (target : Id) (message : Message) : Run (Except RuntimeError Id) := do
  let live := (← get).running.contains target
  match ← modifyGet fun world => world.post target message with
  | .error error => return .error error
  | .ok id =>
    if !live then
      let _ ← engine.spawn target
    return .ok id

/-- Put a message into an inbox and handle what waits. -/
def deliver (engine : Engine) (target : Id) (message : Message) :
    Run (Except RuntimeError Id) := do
  match ← engine.post target message with
  | .error error => return .error error
  | .ok id =>
    let _ ← engine.pump
    return .ok id

/-- Run a script. -/
def runScript {α : Type} (engine : Engine) : Script α → Run α
  | .done result => return result
  | .panic => throw .panic
  | .read id next => do
    let world ← get
    engine.runScript (next (world.store.read id))
  | .execute op next => do
    let result ← modifyGet fun world => world.write op
    engine.runScript (next result)
  | .deliver target message next => do
    let result ← engine.deliver target message.plain
    engine.runScript (next result)
  | .pump next => do
    let handled ← engine.pump
    engine.runScript (next handled)

/-- Call a tool. -/
def callTool (engine : Engine) (name : String) (view : ActorView) (payload : Json) :
    Run (Except ToolError Json) := do
  let admitted ← modifyGet fun world =>
    let (admitted, tools) := world.tools.beginCall name payload
    (admitted, { world with tools })
  match admitted with
  | .error cause => return .error cause
  | .ok code =>
    let result ← engine.runScript (code view payload)
    modify fun world => { world with tools := world.tools.endCall result }
    return result

/-- Run an actor's tool from outside its passes. -/
def invoke (engine : Engine) (target : Id) (payload : Json) :
    Run (Except ActionError Json) := do
  let world ← get
  match world.configForAction target with
  | .error error => return .error error
  | .ok config =>
    match config.function with
    | none => return .error (.structural s!"actor {target.text} has no function")
    | some tool =>
      let context := (world.store.read config.context).getD .empty
      return (← engine.callTool tool ⟨target, context⟩ payload).mapError ActionError.ofTool

/-- Run a pass of an actor. -/
def runPass {α : Type} (engine : Engine) (actor : Id) : Pass α → Run α
  | .done result => return result
  | .read id next => do
    let world ← get
    engine.runPass actor (next (world.store.read id))
  | .execute op next => do
    let result ← modifyGet fun world => world.write op
    engine.runPass actor (next result)
  | .callTool name view payload next => do
    let result ← engine.callTool name view payload
    engine.runPass actor (next result)
  | .deliver target message next => do
    let result ← engine.post target message
    engine.runPass actor (next (result.mapError ActionError.ofRuntime))
  | .interfaceOf target next => do
    let world ← get
    engine.runPass actor (next (world.interfaceOf target))
  | .registerAsk asker target event next => do
    let correlation ← modifyGet fun world => world.registerAsk asker target event
    engine.runPass actor (next correlation)
  | .invoke target payload next => do
    let result ← engine.invoke target payload
    engine.runPass actor (next result)
  | .remember memory next => do
    modify fun world => world.remember actor memory
    engine.runPass actor next

/-- Run a computation while an actor is busy with it, however it ends. -/
def whileBusy {α : Type} (actor : Id) (activity : Activity) (action : Run α) : Run α :=
  fun world =>
    match action (world.turnTo actor activity) with
    | .ok result world => .ok result (world.turnTo actor .idle)
    | .error halt world => .error halt (world.turnTo actor .idle)

/-- Apply the store operation in the payload of a mutation event.  A refused or malformed
one is told to the sender. -/
def applyMutation (engine : Engine) (actor : Id) (entry : Entry) (payload : Json) :
    Run Unit := do
  let outcome : Except ActionError Json ← match StoreOp.ofJson? payload with
    | none => pure (.error (.structural "malformed mutation: not a store operation"))
    | some op => do
      pure ((← modifyGet fun world => world.write op).mapError ActionError.ofStore)
  match outcome, entry.source with
  | .error error, some source =>
    let _ ← engine.post source
      { type := errorEvent, payload := error.payload, source := some actor,
        correlation := entry.correlation, automatic := true }
  | _, _ => return ()

/-- Hand a valid entry on: to the store if it is a mutation, to the behavior otherwise, unless
it answers an ask that has timed out.  Tells whether the actor is to be rendered again. -/
def dispatch (engine : Engine) (id : Id) (running : Running) (message : Id) (entry : Entry)
    (payload : Json) : Run Bool := do
  let world ← get
  if entry.type = world.config.mutationEvent then
    engine.applyMutation id entry payload
    return false
  else
    let accepted ← modifyGet fun world => world.acceptReply id message entry
    if accepted then
      let event : Event := ⟨entry.type, payload, entry.source, entry.correlation⟩
      let dispatch ←
        engine.runPass id (running.behavior.send ⟨id, running.config⟩ running.memory event)
      return dispatch.rerender
    else return false

/-- Handle one entry of an inbox and mark it.  Tells whether the actor is to be rendered
again. -/
def handleEntry (engine : Engine) (id : Id) (running : Running) (message : Id)
    (entry : Entry) : Run Bool := do
  let world ← get
  let verdict := Inbox.validate world.schemas world.config.mutationEvent ⟨id, running.config⟩
    message entry.type entry.payload
  let rerender ← match verdict with
    | .invalid _ => pure false
    | .valid payload => engine.dispatch id running message entry payload
  modify fun world => world.mark message
  return rerender

/-- Have an actor rendered again. -/
def rerender (engine : Engine) (actor : Id) : Run Unit := do
  let world ← get
  match world.onRerender with
  | none => return ()
  | some script =>
    set { world with rerenders := world.rerenders ++ [(actor, world.currentState? actor)] }
    engine.runScript (script actor)

/-- Handle the next entry of an actor, if there is one, and queue the actor again if more wait.
Tells whether the actor is to be rendered again. -/
def handleNext (engine : Engine) (id : Id) : Run (Option Bool) := do
  let world ← get
  match world.running.find? id with
  | none => return none
  | some running =>
    if running.activity ≠ .idle then throw .deadlock
    match world.store.read running.config.inbox with
    | none => return none
    | some inbox =>
      let listed := Inbox.entries inbox
      match ← modifyGet fun world => world.pick id running listed with
      | none => return none
      | some (position, message, entry) =>
        let rerender ← whileBusy id (.handling listed.length)
          (engine.handleEntry id running message entry)
        if position + 1 < listed.length then modify fun world => world.schedule id
        return some rerender

/-- Handle the next entry of an actor and have the actor rendered again, if need be.  Tells
whether an entry was handled. -/
def drain (engine : Engine) (id : Id) : Run Bool := do
  match ← engine.handleNext id with
  | none => return false
  | some rerender =>
    if rerender then engine.rerender id
    return true

/-- Drain queued actors one after the other until none is queued, at most so many rounds. -/
def drainAll (engine : Engine) : (rounds handled : Nat) → Run Nat
  | 0, _ => throw .exhausted
  | rounds + 1, handled => do
    let world ← get
    match world.ready.pop? with
    | none => return handled
    | some (actor, ready) =>
      set { world with ready }
      let did ← engine.drain actor
      engine.drainAll rounds (if did then handled + 1 else handled)

/-- Handle what waits, unless that is under way already: then the one that is under way will
do it. -/
def pumpWith (engine : Engine) (rounds : Nat) : Run Nat := fun world =>
  if world.pumping then .ok 0 world
  else
    match engine.drainAll rounds 0 { world with pumping := true } with
    | .ok handled world => .ok handled { world with pumping := false }
    | .error halt world => .error halt { world with pumping := false }

/-- Start an actor from its record: load its behavior, watch its inbox, run its start pass and
queue it.  An actor that runs already is left alone. -/
def spawnWith (engine : Engine) (id : Id) : Run (Except RuntimeError Unit) := do
  let world ← get
  if world.running.contains id then return .ok ()
  match world.actorConfig id with
  | .error error => return .error error
  | .ok config =>
    match Behavior.load config.behavior world.config with
    | .error cause => return .error (.config cause)
    | .ok behavior =>
      let actor : Actor := ⟨id, config⟩
      set (world.enlist id config behavior)
      whileBusy id .starting (engine.runPass id (behavior.start actor behavior.initialMemory))
      modify fun world => world.schedule id
      return .ok ()

mutual

/-- Start an actor; calls back into the runtime may nest `depth` deep. -/
def spawnAt : (depth : Nat) → Id → Run (Except RuntimeError Unit)
  | 0, _ => throw .exhausted
  | depth + 1, id => spawnWith ⟨fun id => spawnAt depth id, fun world => pumpAt depth world⟩ id

/-- Handle what waits; calls back into the runtime may nest `depth` deep. -/
def pumpAt : (depth : Nat) → Run Nat
  | 0 => throw .exhausted
  | depth + 1 =>
    pumpWith ⟨fun id => spawnAt depth id, fun world => pumpAt depth world⟩ (depth + 1)

end

end Engine

/-- The engine whose calls back into the runtime nest at most `depth` deep and serve at most
so many actors each. -/
def engine (depth : Nat) : Engine := ⟨Engine.spawnAt depth, fun world => Engine.pumpAt depth world⟩

end Troupe
