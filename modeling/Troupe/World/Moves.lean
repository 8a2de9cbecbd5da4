import Troupe.World.Basic

/-!
# Moves

What changes the state of a runtime in one go: no behavior and no tool sees it half done.
Everything that a runtime does is a sequence of these, and each notes in the journal what
others may want to know of it.
-/

namespace Troupe.World

/-- Note that something has happened. -/
def note (world : World) (note : Note) : World := { world with journal := note :: world.journal }

/-! ## The queue and the store -/

/-- Queue an actor. -/
def schedule (world : World) (actor : Id) : World :=
  { world with ready := world.ready.push actor }

/-- Make one call to a listener. -/
def tell (world : World) (call : Call) : World :=
  match call.listener with
  | .actor actor => world.schedule actor
  | .outside _ => { world with notified := world.notified ++ [call] }

/-- Make the calls that the store has queued. -/
def settle (world : World) : World :=
  world.store.calls.foldl tell { world with store := { world.store with calls := [] } }

/-- Put a changed store in place and make the calls that it has queued. -/
def withStore (world : World) (store : Store) : World := { world with store }.settle

/-- Carry out a store operation of the runtime itself. -/
def apply (world : World) (op : StoreOp) : Except StoreError Json × World :=
  let (result, store) := world.store.execute op
  (result, world.withStore store)

/-- Carry out a store operation of a behavior, of a tool or of someone outside. -/
def write (world : World) (op : StoreOp) : Except StoreError Json × World :=
  let (result, after) := world.apply op
  match world.store.written? op with
  | some object => (result, after.note (.wrote object op))
  | none => (result, after)

/-- Make an object and give its identifier. -/
def make (world : World) (value : Json) : Id × World :=
  (world.store.supply.next, (world.apply (.create value none)).2)

/-- Make an empty inbox for a new actor. -/
def makeInbox (world : World) : Id × World :=
  let (inbox, after) := world.make (.obj [(Inbox.entriesField, .arr [])])
  (inbox, after.note (.made inbox))

/-- Enter the owner of an inbox. -/
def own (world : World) (inbox owner : Id) : Except StoreError Json × World :=
  world.apply (.update inbox (.obj [("owner", .id owner)]))

/-! ## Messages -/

/-- Queue an actor if it is running. -/
def wake (world : World) (actor : Id) : World :=
  if world.running.contains actor then world.schedule actor else world

/-- Put a message into an inbox, and queue its target if it is running. -/
def post (world : World) (target : Id) (message : Message) : Except RuntimeError Id × World :=
  let live := world.liveInbox? target
  let (result, store) := Inbox.post world.store live target message
  let after := (world.note (.sent target message)).withStore store
  match result, Inbox.inboxOf (some world.store) live target with
  | .ok id, .ok inbox => (.ok id, (after.note (.posted id inbox)).wake target)
  | result, _ => (result, after)

/-- Mark a message as handled. -/
def mark (world : World) (message : Id) : World :=
  match world.apply (.update message (.obj [("processed", .bool true)])) with
  | (.ok _, after) => after.note (.marked message)
  | (.error _, after) => after

/-! ## Actors -/

/-- Enter an actor among the running ones and watch its inbox. -/
def enlist (world : World) (id : Id) (config : ActorConfig) (behavior : Behavior) : World :=
  let (subscription, store) := world.store.subscribe config.inbox (.actor id)
  { world with
    store
    running := world.running.insert id
      { config, behavior, memory := behavior.initialMemory, subscription }
    journal := .spawned id config.inbox :: world.journal }

/-- Change what an actor is doing. -/
def turnTo (world : World) (actor : Id) (activity : Activity) : World :=
  world.updateRunning actor fun running => { running with activity }

/-- Change what a behavior remembers. -/
def remember (world : World) (actor : Id) (memory : Memory) : World :=
  world.updateRunning actor fun running => { running with memory }

/-- Look for the next entry that an actor is to handle among those listed in its inbox, and
move its cursor behind what was looked at. -/
def pick (world : World) (id : Id) (running : Running) (listed : List Id) :
    Option (Nat × Id × Entry) × World :=
  let inbox := running.config.inbox
  let look := Inbox.look world.store running.cursor (listed.drop running.cursor)
  let after := world.updateRunning id fun running => { running with cursor := look.cursor }
  let passed := look.passed.map fun skip => Note.passed id inbox skip.position skip.message skip.found
  let journal := passed.reverse ++ world.journal
  match look.next with
  | none => (none, { after with journal })
  | some (position, message, entry) =>
    (some (position, message, entry),
      { after with journal := .taken id inbox position message entry :: journal })

/-- Drop an actor from the running ones, with its watch and its asks. -/
def dismiss (world : World) (id : Id) (running : Running) : World :=
  let abandoned := world.pending.filter fun _ ask => ask.asker == id
  { world with
    running := world.running.erase id
    store := world.store.unsubscribe running.subscription
    pending := world.pending.filter fun _ ask => ask.asker != id
    expired := world.expired.filter fun _ ask => ask.asker != id
    journal := abandoned.keys.map (Note.abandoned · id) ++ .stopped id :: world.journal }

/-! ## Asks -/

/-- The time that an ask may stay unanswered. -/
def askTimeout (world : World) : Int := min world.config.askTimeout.toNat 0x7fffffffffffffff

/-- Note an ask under a fresh correlation. -/
def registerAsk (world : World) (asker target : Id) (event : String) : Id × World :=
  let correlation := world.correlations.next
  let deadline :=
    (world.clock.later? world.clock.now world.askTimeout).getD world.clock.latest
  let ask : PendingAsk := ⟨asker, target, event, deadline⟩
  (correlation,
    { world with
      correlations := world.correlations.advance
      pending := world.pending.insert correlation ask
      journal := .asked correlation ask :: world.journal })

/-- Settle the ask that an entry answers; `false` when the answer comes too late.  Any entry
with the correlation of an ask answers it, but for the asker's own messages that are no
replies. -/
def acceptReply (world : World) (receiver message : Id) (entry : Entry) : Bool × World :=
  match entry.correlation with
  | none => (true, world)
  | some correlation =>
    let isReply := entry.type == successEvent || entry.type == errorEvent
    if entry.source == some receiver && !isReply then (true, world)
    else if ((world.expired.find? correlation).map ExpiredAsk.asker) == some receiver then
      (false, world)
    else if ((world.pending.find? correlation).map PendingAsk.asker) == some receiver then
      (true, { world with
        pending := world.pending.erase correlation
        journal := .answered correlation receiver message :: world.journal })
    else (true, world)

/-- Whether a timed-out ask is still tracked: for one more timeout after it timed out. -/
def isTracked (world : World) (now : Int) (ask : ExpiredAsk) : Bool :=
  match world.clock.later? ask.expiredAt world.askTimeout with
  | none => true
  | some limit => decide (now < limit)

/-- The asks whose deadline has come. -/
def overdue (world : World) (now : Int) : Table Id PendingAsk :=
  world.pending.filter fun _ ask => decide (ask.deadline ≤ now)

/-- Let every ask time out whose deadline has come, and track no longer what timed out long
ago. -/
def timeOut (world : World) (now : Int) : World :=
  { world with
    expired := world.expired.filter fun _ ask => world.isTracked now ask
    pending := world.pending.filter fun _ ask => !decide (ask.deadline ≤ now)
    journal := (world.overdue now).entries.map (fun entry => .timedOut entry.1 entry.2 now)
      ++ world.journal }

/-- Track an ask that has timed out, so that a late answer is dropped. -/
def track (world : World) (correlation asker : Id) (now : Int) : World :=
  { world with expired := world.expired.insert correlation ⟨asker, now⟩ }

end Troupe.World
