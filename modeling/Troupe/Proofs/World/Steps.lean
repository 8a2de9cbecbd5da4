import Mathlib.Logic.Relation
import Troupe.Proofs.World.Frames
import Troupe.Proofs.World.Session

/-!
# Steps

What happens to a runtime, as a relation between its states.  A `Step` is what the runtime does
by itself while it runs passes and serves its queue; a `StepOrBreak` is a step or what happens
when a call breaks off; an `Order` is what a command does on its own account.  An invariant of
all three holds in every session.

A computation that is nested in a pass leaves alone what is known of the actors that are busy:
`World.Nests`.  One that a tool breaks off goes by steps up to that point, and from there it only
unwinds: `World.BreaksOff`.
-/

namespace Troupe

open Relation

/-- What is known of a busy actor stays, but for what its behavior remembers; an idle one may
have handled entries. -/
structure Running.Kept (old new : Running) : Prop where
  /-- Its record stays, -/
  config : new.config = old.config
  /-- its behavior, -/
  behavior : new.behavior = old.behavior
  /-- its watch, -/
  subscription : new.subscription = old.subscription
  /-- what it is doing, -/
  activity : new.activity = old.activity
  /-- and where it is in its inbox. -/
  cursor : old.activity ≠ .idle → new.cursor = old.cursor

protected lemma Running.Kept.refl (running : Running) : running.Kept running :=
  ⟨rfl, rfl, rfl, rfl, fun _ => rfl⟩

protected lemma Running.Kept.trans {old middle new : Running} (first : old.Kept middle)
    (second : middle.Kept new) : old.Kept new where
  config := second.config.trans first.config
  behavior := second.behavior.trans first.behavior
  subscription := second.subscription.trans first.subscription
  activity := second.activity.trans first.activity
  cursor busy := (second.cursor (first.activity ▸ busy)).trans (first.cursor busy)

/-- What is known of an actor, but for what it is doing. -/
def Running.atRest (running : Running) : Running := { running with activity := .idle }

lemma Running.eq_of_atRest {old new : Running} (same : new.atRest = old.atRest) :
    new = { old with activity := new.activity } := by
  obtain ⟨config, behavior, memory, cursor, subscription, activity⟩ := new
  cases same
  rfl

namespace World

variable {world before middle after : World} {actor : Id}

/-- An actor is handling an entry of its inbox. -/
structure Handles (world : World) (running : Running) (actor message : Id) (entry : Entry) :
    Prop where
  /-- The actor is running, -/
  found : world.running.find? actor = some running
  /-- it is busy with an entry, -/
  busy : ∃ listed, running.activity = .handling listed
  /-- and the entry is the one just before its cursor. -/
  taken : ∃ position, running.cursor = position + 1 ∧
    Note.taken actor running.config.inbox position message entry ∈ world.journal

/-- An entry passes the checks of an actor. -/
def Validates (world : World) (actor : Actor) (message : Id) (entry : Entry) : Prop :=
  ∃ payload, Inbox.validate world.schemas world.config.mutationEvent actor message entry.type
    entry.payload = .valid payload

/-- What the runtime does by itself. -/
inductive Step : World → World → Prop
  /-- A behavior, a tool or a mutation writes to the store. -/
  | write (world : World) (op : StoreOp) : Step world (world.write op).2
  /-- A message is posted. -/
  | post (world : World) (target : Id) (message : Message) :
    Step world (world.post target message).2
  /-- A tool call is counted. -/
  | tools (world : World) (tools : ToolRegistry) : Step world { world with tools }
  /-- A behavior remembers something. -/
  | remember (world : World) (actor : Id) (memory : Memory) :
    Step world (world.remember actor memory)
  /-- A running actor asks. -/
  | ask {world : World} {asker : Id} (target : Id) (event : String)
    (runs : world.running.contains asker) : Step world (world.registerAsk asker target event).2
  /-- An entry that passed the checks and is no mutation is about to reach its behavior. -/
  | accept {world : World} {running : Running} {actor message : Id} {entry : Entry}
    (handles : world.Handles running actor message entry)
    (validates : world.Validates ⟨actor, running.config⟩ message entry)
    (event : entry.type ≠ world.config.mutationEvent) :
    Step world (world.acceptReply actor message entry).2
  /-- An entry has been handled and is marked. -/
  | mark {world : World} {running : Running} {actor message : Id} {entry : Entry}
    (handles : world.Handles running actor message entry) : Step world (world.mark message)
  /-- An actor is noted to be rendered again. -/
  | render (world : World) (rerenders : List (Id × Option String)) :
    Step world { world with rerenders }
  /-- A pump begins or ends. -/
  | pump (world : World) (pumping : Bool) : Step world { world with pumping }
  /-- The next actor in the queue does not run, or has no inbox that can be read. -/
  | skip {world : World} {actor : Id} {ready : ReadyQueue}
    (next : world.ready.pop? = some (actor, ready))
    (nothing : ∀ running, world.running.find? actor = some running →
      running.activity = .idle ∧ world.store.read running.config.inbox = none) :
    Step world { world with ready }
  /-- The next actor in the queue looks for an entry to handle and finds none. -/
  | pass {world : World} {actor : Id} {ready : ReadyQueue} {running : Running}
    (next : world.ready.pop? = some (actor, ready))
    (found : world.running.find? actor = some running) (idle : running.activity = .idle)
    (none : (pick { world with ready } actor running
      (Inbox.listed world.store running.config.inbox)).1 = none) :
    Step world (pick { world with ready } actor running
      (Inbox.listed world.store running.config.inbox)).2
  /-- The next actor in the queue begins to handle an entry. -/
  | take {world : World} {actor : Id} {ready : ReadyQueue} {running : Running}
    {taken : Nat × Id × Entry}
    (next : world.ready.pop? = some (actor, ready))
    (found : world.running.find? actor = some running) (idle : running.activity = .idle)
    (some : (pick { world with ready } actor running
      (Inbox.listed world.store running.config.inbox)).1 = some taken) :
    Step world ((pick { world with ready } actor running
      (Inbox.listed world.store running.config.inbox)).2.turnTo actor
        (.handling (Inbox.listed world.store running.config.inbox).length))
  /-- An actor has handled an entry, and is queued again if more were listed. -/
  | finish {world : World} {actor : Id} {running : Running} {listed : Nat}
    (found : world.running.find? actor = some running)
    (busy : running.activity = .handling listed) :
    Step world (if running.cursor < listed then (world.turnTo actor .idle).schedule actor
      else world.turnTo actor .idle)
  /-- An actor that does not run is started. -/
  | enlist {world : World} {actor : Id} {config : ActorConfig} {behavior : Behavior}
    (stopped : world.running.contains actor = false)
    (record : world.actorConfig actor = .ok config)
    (loaded : Behavior.load config.behavior world.config = .ok behavior) :
    Step world ((world.enlist actor config behavior).turnTo actor .starting)
  /-- An actor has started, and is queued. -/
  | started {world : World} {actor : Id} {running : Running}
    (found : world.running.find? actor = some running) (busy : running.activity = .starting) :
    Step world ((world.turnTo actor .idle).schedule actor)

/-- What the runtime does by itself, calls that break off included. -/
inductive StepOrBreak : World → World → Prop
  /-- A step. -/
  | step {world after : World} (step : Step world after) : StepOrBreak world after
  /-- A pass breaks off. -/
  | breakOff {world : World} {actor : Id} {running : Running}
    (found : world.running.find? actor = some running) (busy : running.activity ≠ .idle) :
    StepOrBreak world (world.turnTo actor .idle)
  /-- The next actor in the queue is busy, and its turn breaks off. -/
  | jam {world : World} {actor : Id} {ready : ReadyQueue} {running : Running}
    (next : world.ready.pop? = some (actor, ready))
    (found : world.running.find? actor = some running) (busy : running.activity ≠ .idle) :
    StepOrBreak world { world with ready }

/-- What commands do on their own account. -/
inductive Order : World → World → Prop
  /-- An inbox is made. -/
  | makeInbox (world : World) : Order world world.makeInbox.2
  /-- A context or a record is made. -/
  | make (world : World) (value : Json) : Order world (world.make value).2
  /-- The owner of a new inbox is entered. -/
  | own {world : World} {inbox : Id} (made : Note.made inbox ∈ world.journal) (owner : Id) :
    Order world (world.own inbox owner).2
  /-- An actor is queued. -/
  | schedule (world : World) (actor : Id) : Order world (world.schedule actor)
  /-- An actor is stopped. -/
  | dismiss {world : World} {actor : Id} {running : Running}
    (found : world.running.find? actor = some running) (idle : running.activity = .idle) :
    Order world (world.dismiss actor running)
  /-- Asks time out. -/
  | timeOut (world : World) (now : Int) : Order world (world.timeOut now)
  /-- An ask that has timed out is tracked. -/
  | track {world : World} {correlation : Id} {ask : PendingAsk} {now : Int}
    (timedOut : Note.timedOut correlation ask now ∈ world.journal)
    (runs : world.running.contains ask.asker) :
    Order world (world.track correlation ask.asker now)
  /-- An object is protected. -/
  | protect (world : World) (object : Id) :
    Order world { world with store := world.store.protect object }
  /-- Someone outside listens to an object. -/
  | watch (world : World) (object : Id) (name : String) :
    Order world { world with store := (world.store.subscribe object (.outside name)).2 }
  /-- Someone outside listens no longer. -/
  | unwatch (world : World) (token : Nat) : Order world (world.unwatch token)
  /-- A schema is registered. -/
  | registerSchema (world : World) (event : String) (schema : Json) :
    Order world (world.registerSchema event schema)
  /-- Other tools are put in place. -/
  | setTools (world : World) (tools : ToolRegistry) : Order world { world with tools }
  /-- The hook for rendering is set. -/
  | onRerender (world : World) (script : Option (Id → Script Unit)) :
    Order world { world with onRerender := script }
  /-- The clock is set. -/
  | setTime (world : World) (now : Int) :
    Order world { world with clock := { world.clock with now } }
  /-- The runtime begins anew over its saved store. -/
  | restart {world after : World} (config : Config) (restored : world.restore? config = some after) :
    Order world after

/-- Any number of steps. -/
abbrev Steps : World → World → Prop := ReflTransGen Step

/-- Any number of steps, calls that break off included. -/
abbrev StepsOrBreaks : World → World → Prop := ReflTransGen StepOrBreak

lemma Steps.stepsOrBreaks (steps : Steps before after) : StepsOrBreaks before after :=
  ReflTransGen.mono (fun _ _ => .step) _ _ steps

/-! ## The store -/

lemma acceptReply_store (world : World) (receiver message : Id) (entry : Entry) :
    (world.acceptReply receiver message entry).2.store = world.store := by
  rcases acceptReply_cases world receiver message entry with same | ⟨_, _, -, -, -, -, done⟩
  · rw [same]
  · rw [done]

/-- A step writes to the store at most; who listens may change too. -/
lemma Step.grows (step : Step before after) : before.store.Grows after.store := by
  cases step with
  | write op => exact (before.write_storeFrame op).store.toGrows
  | post target message => exact (before.post_storeFrame target message).store.toGrows
  | mark handles => exact (before.mark_storeFrame _).store.toGrows
  | tools | render | pump | skip | ask => exact .refl _
  | remember => rw [World.remember, updateRunning_store]; exact .refl _
  | accept => rw [acceptReply_store]; exact .refl _
  | pass => rw [pick_store]; exact .refl _
  | take => rw [World.turnTo, updateRunning_store, pick_store]; exact .refl _
  | finish =>
    split
    · rw [World.schedule, World.turnTo, updateRunning_store]
      exact .refl _
    · rw [World.turnTo, updateRunning_store]
      exact .refl _
  | started => rw [World.schedule, World.turnTo, updateRunning_store]; exact .refl _
  | enlist =>
    rw [World.turnTo, updateRunning_store]
    exact ⟨.of_eq rfl rfl, fun _ => Nat.le_refl _, fun _ _ => rfl, rfl⟩

lemma Steps.grows (steps : Steps before after) : before.store.Grows after.store := by
  induction steps with
  | refl => exact .refl _
  | tail _ step ih => exact ih.trans step.grows

lemma StepsOrBreaks.grows (stepsOrBreaks : StepsOrBreaks before after) :
    before.store.Grows after.store := by
  induction stepsOrBreaks with
  | refl => exact .refl _
  | tail _ stepOrBreak ih =>
    refine ih.trans ?_
    cases stepOrBreak with
    | step step => exact step.grows
    | breakOff found busy => rw [turnTo, updateRunning_store]; exact .refl _
    | jam next found busy => exact .refl _

/-! ## Nested computations -/

/-- What a computation leaves alone that is nested in a pass. -/
structure Nests (before after : World) : Prop where
  /-- Actors that run go on running. -/
  kept : ∀ actor old, before.running.find? actor = some old →
    ∃ new, after.running.find? actor = some new ∧ old.Kept new
  /-- Actors that were started are idle. -/
  fresh : ∀ actor new, before.running.find? actor = none →
    after.running.find? actor = some new → new.activity = .idle
  /-- What happened stays. -/
  journal : before.journal <:+ after.journal
  /-- Settings stay, -/
  config : after.config = before.config
  /-- schemas, -/
  schemas : after.schemas = before.schemas
  /-- and whether queued actors are being served. -/
  pumping : after.pumping = before.pumping

/-- No pass is under way. -/
def Idle (world : World) : Prop :=
  ∀ actor running, world.running.find? actor = some running → running.activity = .idle

namespace Nests

/-- A computation that does not touch the running actors. -/
lemma of_running (running : after.running = before.running)
    (journal : before.journal <:+ after.journal) (config : after.config = before.config)
    (schemas : after.schemas = before.schemas) (pumping : after.pumping = before.pumping) :
    before.Nests after where
  kept actor old found := ⟨old, running ▸ found, .refl old⟩
  fresh actor new stopped found := by
    rw [running, stopped] at found
    cases found
  journal := journal
  config := config
  schemas := schemas
  pumping := pumping

protected lemma refl (world : World) : world.Nests world :=
  of_running rfl (List.suffix_refl _) rfl rfl rfl

protected lemma trans (first : before.Nests middle) (second : middle.Nests after) :
    before.Nests after where
  kept actor old found := by
    obtain ⟨mid, found, kept⟩ := first.kept actor old found
    obtain ⟨new, found, kept'⟩ := second.kept actor mid found
    exact ⟨new, found, kept.trans kept'⟩
  fresh actor new stopped found := by
    -- an actor that is new at the end was started in the first part or in the second
    cases mid : middle.running.find? actor with
    | none => exact second.fresh actor new mid found
    | some running =>
      obtain ⟨new', found', kept⟩ := second.kept actor running mid
      obtain rfl : new = new' := Option.some.inj (found.symm.trans found')
      rw [kept.activity]
      exact first.fresh actor running stopped mid
  journal := first.journal.trans second.journal
  config := second.config.trans first.config
  schemas := second.schemas.trans first.schemas
  pumping := second.pumping.trans first.pumping

lemma contains (nests : before.Nests after) (runs : before.running.contains actor) :
    after.running.contains actor := by
  obtain ⟨old, found⟩ := Option.isSome_iff_exists.1 runs
  obtain ⟨new, found, -⟩ := nests.kept actor old found
  exact Option.isSome_iff_exists.2 ⟨new, found⟩

lemma idle (nests : before.Nests after) (idle : before.Idle) : after.Idle := by
  intro actor new found
  cases old : before.running.find? actor with
  | none => exact nests.fresh actor new old found
  | some running =>
    obtain ⟨new', found', kept⟩ := nests.kept actor running old
    obtain rfl : new = new' := Option.some.inj (found.symm.trans found')
    rw [kept.activity]
    exact idle actor running old

end Nests

/-! ## Computations that are broken off -/

/-- A halt goes up through the passes and the pumps that are under way: it changes what actors
are doing and whether queued actors are being served, and nothing else. -/
structure Unwinds (broke after : World) : Prop where
  /-- The rest of the state stays. -/
  frame : after = { broke with running := after.running, pumping := after.pumping }
  /-- So does what is known of the actors, but for what they are doing. -/
  running : ∀ actor, (after.running.find? actor).map Running.atRest =
    (broke.running.find? actor).map Running.atRest

namespace Unwinds

lemma store (unwinds : before.Unwinds after) : after.store = before.store := by rw [unwinds.frame]
lemma ready (unwinds : before.Unwinds after) : after.ready = before.ready := by rw [unwinds.frame]

protected lemma refl (world : World) : world.Unwinds world := ⟨rfl, fun _ => rfl⟩

protected lemma trans (first : before.Unwinds middle) (second : middle.Unwinds after) :
    before.Unwinds after :=
  ⟨by rw [second.frame, first.frame],
    fun actor => (second.running actor).trans (first.running actor)⟩

/-- An actor turns to something else. -/
lemma turnTo (world : World) (actor : Id) (activity : Activity) :
    world.Unwinds (world.turnTo actor activity) := by
  refine ⟨?_, fun other => ?_⟩
  · rw [World.turnTo, updateRunning_frame]
  · rw [World.turnTo, find?_updateRunning]
    split
    · rw [Option.map_map]
      rfl
    · rfl

/-- A pump begins or ends. -/
lemma pump (world : World) (pumping : Bool) : world.Unwinds { world with pumping } :=
  ⟨rfl, fun _ => rfl⟩

/-- An actor that runs when all is unwound was running when it began. -/
lemma exists_old (unwinds : before.Unwinds after) {new : Running}
    (found : after.running.find? actor = some new) :
    ∃ old, before.running.find? actor = some old ∧ new = { old with activity := new.activity } := by
  have same := unwinds.running actor
  rw [found] at same
  obtain ⟨old, there, eq⟩ := Option.map_eq_some_iff.1 same.symm
  exact ⟨old, there, Running.eq_of_atRest eq.symm⟩

/-- An actor that was running when it began runs when all is unwound. -/
lemma exists_new (unwinds : before.Unwinds after) {old : Running}
    (found : before.running.find? actor = some old) :
    ∃ new, after.running.find? actor = some new ∧ new = { old with activity := new.activity } := by
  have same := unwinds.running actor
  rw [found] at same
  obtain ⟨new, there, eq⟩ := Option.map_eq_some_iff.1 same
  exact ⟨new, there, Running.eq_of_atRest eq⟩

end Unwinds

/-- Steps lead to where something breaks off, and from there all is unwound. -/
def BreaksOff (before after : World) : Prop := ∃ broke, Steps before broke ∧ broke.Unwinds after

namespace BreaksOff

lemma head (steps : Steps before middle) (breaks : middle.BreaksOff after) :
    before.BreaksOff after := by
  obtain ⟨broke, rest, unwinds⟩ := breaks
  exact ⟨broke, steps.trans rest, unwinds⟩

lemma tail (breaks : before.BreaksOff middle) (unwinds : middle.Unwinds after) :
    before.BreaksOff after := by
  obtain ⟨broke, steps, first⟩ := breaks
  exact ⟨broke, steps, first.trans unwinds⟩

/-- It breaks off right here. -/
protected lemma refl (world : World) : world.BreaksOff world := ⟨world, .refl, .refl world⟩

end BreaksOff

lemma StoreFrame.suffix (storeFrame : before.StoreFrame after) :
    before.journal <:+ after.journal := by
  obtain ⟨new, eq, -⟩ := storeFrame.journal
  exact eq ▸ List.suffix_append _ _

lemma StoreFrame.nests (storeFrame : before.StoreFrame after) : before.Nests after :=
  .of_running storeFrame.running storeFrame.suffix storeFrame.config storeFrame.schemas
    storeFrame.pumping

/-- An entry that is being handled goes on being handled in a nested computation. -/
lemma Handles.nests {running : Running} {message : Id} {entry : Entry}
    (handles : before.Handles running actor message entry) (nests : before.Nests after) :
    ∃ new, after.Handles new actor message entry := by
  obtain ⟨new, found, kept⟩ := nests.kept actor running handles.found
  obtain ⟨listed, busy⟩ := handles.busy
  obtain ⟨position, cursor, taken⟩ := handles.taken
  refine ⟨new, found, ⟨listed, kept.activity.trans busy⟩, position, ?_, ?_⟩
  · rw [kept.cursor (by simp [busy]), cursor]
  · rw [kept.config]
    exact nests.journal.subset taken

end World

end Troupe
