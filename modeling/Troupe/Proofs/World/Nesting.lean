import Troupe.Proofs.Store.Effects
import Troupe.Proofs.World.Flush
import Troupe.Proofs.World.Keeps
import Troupe.Proofs.World.Mail
import Troupe.Proofs.World.Wakeups

/-!
# Entries are handled one at a time

While queued actors are being served, tools and rendering hooks may call back into the runtime
as deep as they like: they post messages, and what they post to may start, but no entry of any
inbox is looked at.  So the handling of an entry is over, with the message marked, before the
next one is picked.

## Main results

* `engine_encloses`: what is nested in a pump posts and starts, and nothing else;
* `Engine.handleNext_served`: how the turn of an actor goes that returns;
* `Engine.Drained`, `Engine.Turns`: how one entry is handled, and one after the other;
* `engine_runs_to_completion`: all of it together.
-/

namespace Troupe

/-! ## What is noted of nested calls -/

/-- Whether a note is of the handling of an entry: it was passed over, taken or marked. -/
def Note.ofEntry : Note → Bool
  | .passed .. | .taken .. | .marked _ => true
  | _ => false

/-- Whether a note is of an actor that began to run. -/
def Note.ofStart : Note → Bool
  | .spawned .. => true
  | _ => false

/-- What is noted of calls that are nested in the handling of an entry, latest first: nothing of
other entries, and actors begin to run only when a message has just been posted to them. -/
inductive Journal.Inner : List Note → Prop
  /-- Nothing. -/
  | nil : Inner []
  /-- Something that has to do with no entry and with no start. -/
  | note {note : Note} {earlier : List Note} (entry : note.ofEntry = false)
    (start : note.ofStart = false) : Inner earlier → Inner (note :: earlier)
  /-- An actor began to run when a message was posted to it. -/
  | started {actor inbox home id : Id} {message : Message} {earlier : List Note} :
    Inner earlier →
    Inner (.spawned actor inbox :: .posted id home :: .sent actor message :: earlier)

namespace Journal.Inner

variable {notes later earlier : List Note}

lemma append (second : Inner later) (first : Inner earlier) : Inner (later ++ earlier) := by
  induction second with
  | nil => exact first
  | note entry start _ ih => exact .note entry start ih
  | started _ ih => exact .started ih

/-- No entry is passed over, taken or marked. -/
lemma not_ofEntry (inner : Inner notes) : ∀ note ∈ notes, note.ofEntry = false := by
  induction inner with
  | nil => exact fun _ mem => by cases mem
  | note entry start _ ih => exact List.forall_mem_cons.2 ⟨entry, ih⟩
  | started _ ih =>
    simp only [List.forall_mem_cons]
    exact ⟨rfl, rfl, rfl, ih⟩

end Journal.Inner

namespace World

variable {world before middle after : World} {actor : Id}

/-- What calls do that are nested in the handling of an entry: queued actors go on being served
by whoever serves them, and nothing is noted of other entries. -/
structure Encloses (before after : World) : Prop where
  /-- The pump that is under way stays so. -/
  pumping : after.pumping = true
  /-- What happens is noted, and no more than may be. -/
  journal : ∃ notes, after.journal = notes ++ before.journal ∧ Journal.Inner notes

/-- What happens while queued actors are being served is nested. -/
def Nested (before after : World) : Prop := before.pumping = true → before.Encloses after

namespace Encloses

protected lemma refl (pumping : world.pumping = true) : world.Encloses world :=
  ⟨pumping, [], rfl, .nil⟩

protected lemma trans (first : before.Encloses middle) (second : middle.Encloses after) :
    before.Encloses after := by
  obtain ⟨notes₁, eq₁, inner₁⟩ := first.journal
  obtain ⟨notes₂, eq₂, inner₂⟩ := second.journal
  exact ⟨second.pumping, notes₂ ++ notes₁, by rw [eq₂, eq₁, List.append_assoc],
    inner₂.append inner₁⟩

/-- Nothing is noted. -/
lemma of_eq (pumping : after.pumping = true) (journal : after.journal = before.journal) :
    before.Encloses after :=
  ⟨pumping, [], journal, .nil⟩

/-- One thing is noted. -/
lemma of_note {note : Note} (pumping : after.pumping = true)
    (journal : after.journal = note :: before.journal) (entry : note.ofEntry = false)
    (start : note.ofStart = false) : before.Encloses after :=
  ⟨pumping, [note], journal, .note entry start .nil⟩

end Encloses

/-- A write is noted as such, if it is one. -/
lemma write_journal (world : World) (op : StoreOp) :
    (world.write op).2.journal = world.journal ∨
      ∃ object, (world.write op).2.journal = .wrote object op :: world.journal := by
  rw [write_snd]
  split
  · rename_i object _
    exact .inr ⟨object, by rw [note, apply_journal]⟩
  · exact .inl (apply_journal _ _)

lemma nested_frame : Frame Nested Nested where
  refl _ := .refl
  trans first second pumping := (first pumping).trans (second (first pumping).pumping)
  halts first second pumping := (first pumping).trans (second (first pumping).pumping)
  halt _ := .refl
  write world op pumping := by
    have still := (world.write_storeFrame op).pumping.trans pumping
    rcases world.write_journal op with same | ⟨object, wrote⟩
    · exact .of_eq still same
    · exact .of_note still wrote rfl rfl
  tools _ _ pumping := .of_eq pumping rfl
  ask _ _ _ _ pumping := .of_note pumping rfl rfl rfl

lemma remember_nested (world : World) (actor : Id) (memory : Memory) :
    world.Nested (world.remember actor memory) :=
  fun pumping => .of_eq ((updateRunning_pumping _ _ _).trans pumping) (updateRunning_journal _ _ _)

/-! ## Posting -/

/-- What a post that succeeds does: it stores a new message, appends it to the inbox of its
target, and wakes those who listen. -/
structure Posted (before : World) (target : Id) (message : Message) (id inbox : Id)
    (after : World) : Prop extends before.StoreFrame after where
  /-- The message is posted to the inbox of the target, -/
  home : Inbox.inboxOf (some before.store) (before.liveInbox? target) target = .ok inbox
  /-- under a new identifier. -/
  new : id = before.store.supply.next
  /-- The message is stored. -/
  stored : id ≠ inbox → after.store.read id = some (Entry.pending target message).toJson
  /-- The inbox lists it behind the others. -/
  listed : id ≠ inbox → ∃ object, before.store.read inbox = some object ∧
    after.store.read inbox = some (object.setField Inbox.entriesField
      (.arr (object.itemsIn Inbox.entriesField ++ [.id id])))
  /-- Every other object stays. -/
  others : ∀ other, other ≠ id → other ≠ inbox →
    after.store.read other = before.store.read other
  /-- The post is noted. -/
  notes : after.journal = .posted id inbox :: .sent target message :: before.journal
  /-- The target is queued if it is running. -/
  wakes : before.running.contains target = true → target ∈ after.ready.order

/-- A post that succeeds. -/
lemma post_posted {target id : Id} {message : Message}
    (done : (world.post target message).1 = .ok id) :
    ∃ inbox, world.Posted target message id inbox (world.post target message).2 := by
  cases routed : Inbox.inboxOf (some world.store) (world.liveInbox? target) target with
  | error error =>
    simp only [post, Inbox.post, routed] at done
    cases done
  | ok inbox =>
    rcases Inbox.append_cases world.store inbox target message with
      ⟨answer, store, pushed, appended⟩ | ⟨error, refused⟩
    · simp only [post, Inbox.post, routed, appended, Except.ok.injEq] at done
      have result := post_of_append routed appended
      dsimp only at result
      -- the message and the inbox are written one after the other, and nothing else is
      have created := Inbox.write_withMessage world.store target message
      have effect := Store.push_effect pushed
      have kept : ∀ other, (world.post target message).2.store.read other = store.read other := by
        intro other
        rw [result, wake_store]
        exact read_withStore _ _ _
      refine ⟨inbox, world.post_storeFrame target message, routed, done.symm, fun ne => ?_,
        fun ne => ?_, fun other new old => ?_, ?_, fun runs => ?_⟩
      · subst done
        rw [kept, effect.read_other _ ne]
        exact (Store.read_put _ _ _ _).trans (if_pos rfl)
      · subst done
        obtain ⟨object, items, found, -, -⟩ := Store.push_ok pushed
        have value := effect.value
        rw [StoreOp.target, found] at value
        exact ⟨object, (created.read_other _ (Ne.symm ne)).symm.trans found, (kept _).trans value⟩
      · subst done
        rw [kept, effect.read_other _ old, created.read_other _ new]
      · subst done
        rw [result, wake_journal]
        simp [note]
      · have live : (((world.note (.sent target message)).withStore store).note
            (.posted world.store.supply.next inbox)).running.contains target = true := by
          simpa [note] using runs
        rw [result, wake, if_pos live]
        exact ReadyQueue.mem_push _ _
    · simp only [post, Inbox.post, routed, refused] at done
      cases done

/-! ## Starting and pumping -/

/-- What the start of an actor does while queued actors are being served: it is noted first, and
the rest is nested. -/
def Starts (actor : Id) (before after : World) : Prop :=
  before.pumping = true → after.pumping = true ∧
    (before.Encloses after ∨ ∃ inbox notes,
      after.journal = notes ++ .spawned actor inbox :: before.journal ∧ Journal.Inner notes)

end World

lemma Run.Keeps.encloses {α : Type} {run : Run α} {world : World}
    (keeps : Run.Keeps World.Nested World.Nested run world) (pumping : world.pumping = true) :
    Run.Keeps World.Encloses World.Encloses run world := by
  unfold Run.Keeps at keeps ⊢
  cases ran : run world <;> rw [ran] at keeps <;> exact keeps pumping

namespace Engine

open World

variable {engine : Engine} {world : World}

/-- Posting is nested: the start that it may lead to comes right after the post. -/
lemma post_nested
    (starts : ∀ id world, Run.Keeps (Starts id) (Starts id) (engine.spawn id) world)
    (target : Id) (message : Message) (world : World) :
    Run.Keeps Nested Nested (engine.post target message) world := by
  rw [Run.Keeps, post_eq]
  have still := (world.post_storeFrame target message).pumping
  cases done : world.post target message with
  | mk result after =>
  rw [done] at still
  cases result with
  | error error =>
    intro pumping
    obtain ⟨rest, journal, posts⟩ := world.post_journal target message
    rw [done] at journal
    refine ⟨still.trans pumping, rest ++ [.sent target message], by simpa using journal, ?_⟩
    clear journal
    induction rest with
    | nil => exact .note rfl rfl .nil
    | cons note rest ih =>
      obtain ⟨id, inbox, rfl⟩ := posts _ List.mem_cons_self
      exact .note rfl rfl (ih fun other mem => posts other (List.mem_cons_of_mem _ mem))
  | ok id =>
    obtain ⟨inbox, posted⟩ := post_posted (show (world.post target message).1 = .ok id by rw [done])
    have journal := posted.notes
    rw [done] at journal
    dsimp only at journal ⊢
    split
    · exact fun pumping => ⟨still.trans pumping, [.posted id inbox, .sent target message], journal,
        .note rfl rfl (.note rfl rfl .nil)⟩
    · -- whether the start returns or halts, it is noted right after the post
      have started : ∀ last, Starts target after last → world.Nested last := by
        intro last starts pumping
        obtain ⟨still', inner | ⟨home, notes, journal', inner⟩⟩ := starts (still.trans pumping)
        · obtain ⟨notes, journal', inner⟩ := inner.journal
          refine ⟨still', notes ++ [.posted id inbox, .sent target message],
            by simp [journal', journal], ?_⟩
          exact inner.append (.note rfl rfl (.note rfl rfl .nil))
        · refine ⟨still', notes ++ [.spawned target home, .posted id inbox, .sent target message],
            by simp [journal', journal], ?_⟩
          exact inner.append (.started .nil)
      have keeps := starts target after
      rw [Run.Keeps] at keeps
      cases ran : engine.spawn target after with
      | ok result last =>
        rw [ran] at keeps
        exact started last keeps
      | error halt last =>
        rw [ran] at keeps
        exact started last keeps

/-- What the start of an actor does. -/
lemma spawnWith_starts (keeps : engine.Keeps Nested Nested) (id : Id) (world : World) :
    Run.Keeps (Starts id) (Starts id) (engine.spawnWith id) world := by
  have pass : ∀ config behavior,
      Run.Keeps Nested Nested (engine.runPass id (behavior.start ⟨id, config⟩ behavior.initialMemory))
        ((world.enlist id config behavior).turnTo id .starting) := fun config behavior =>
    runPass_keeps nested_frame keeps (fun world => remember_nested world id) _ _
  -- what comes after the pass notes nothing
  have started : ∀ {config behavior middle last},
      ((world.enlist id config behavior).turnTo id .starting).Nested middle →
      last.pumping = middle.pumping → last.journal = middle.journal → Starts id world last := by
    intro config behavior middle last nested pumpingEq journalEq pumping
    have still : ((world.enlist id config behavior).turnTo id .starting).pumping = world.pumping :=
      updateRunning_pumping _ _ _
    obtain ⟨pumping', notes, journal, inner⟩ := nested (still.trans pumping)
    refine ⟨pumpingEq.trans pumping', .inr ⟨config.inbox, notes, ?_, inner⟩⟩
    rw [journalEq, journal, turnTo, updateRunning_journal]
    rfl
  have startup := engine.spawnWith_startup id world
  rw [Run.Keeps]
  generalize engine.spawnWith id world = result at startup ⊢
  cases startup with
  | running | unrecorded | unloaded => exact fun pumping => ⟨pumping, .inl (.refl pumping)⟩
  | @passed config behavior _ _ _ _ passed =>
    exact started ((pass config behavior).ok passed) (updateRunning_pumping _ _ _)
      (updateRunning_journal _ _ _)
  | @halted config behavior _ _ _ _ _ halted =>
    exact started ((pass config behavior).error halted) (updateRunning_pumping _ _ _)
      (updateRunning_journal _ _ _)

end Engine

open World

/-- A pump that is nested in another handles nothing. -/
lemma engine_pump_of_pumping (depth : Nat) {world : World} (pumping : world.pumping = true) :
    (engine (depth + 1)).pump world = .ok 0 world := by
  change Engine.pumpAt (depth + 1) world = _
  rw [Engine.pumpAt, Engine.pumpWith, if_pos pumping]

/-- However deep calls nest in a pump, they post and start, and do nothing else. -/
theorem engine_encloses (depth : Nat) : (engine depth).Keeps Nested Nested ∧
    ∀ id world, Run.Keeps (Starts id) (Starts id) ((engine depth).spawn id) world := by
  induction depth with
  | zero =>
    have starts : ∀ id world, Run.Keeps (Starts id) (Starts id) ((engine 0).spawn id) world :=
      fun id world pumping => ⟨pumping, .inl (.refl pumping)⟩
    exact ⟨⟨fun target message world _ => Engine.post_nested starts target message world,
      fun world => .refl, fun _ _ => trivial⟩, starts⟩
  | succ depth ih =>
    have starts : ∀ id world,
        Run.Keeps (Starts id) (Starts id) ((engine (depth + 1)).spawn id) world := by
      intro id world
      change Run.Keeps _ _ (Engine.spawnAt (depth + 1) id) world
      rw [Engine.spawnAt]
      exact Engine.spawnWith_starts ih.1 id world
    refine ⟨⟨fun target message world _ => Engine.post_nested starts target message world,
      fun world => ?_, fun _ _ => trivial⟩, starts⟩
    -- nothing is claimed of a pump that is not nested in another
    by_cases pumping : world.pumping = true
    · rw [Run.Keeps, engine_pump_of_pumping depth pumping]
      exact .refl
    · rw [Run.Keeps]
      cases (engine (depth + 1)).pump world <;> exact fun still => absurd still pumping

/-! ## One entry -/

/-- What a drain notes, latest first: which entries the actor passed over, then the entry that
it took, what happened while it was handled, that it was marked, and what happened while the
actor was rendered again. -/
inductive Journal.Turn (actor : Id) : Bool → List Note → Prop
  /-- There was no entry to handle. -/
  | nothing {skips : List Note}
    (passed : ∀ note ∈ skips, ∃ inbox position message found,
      note = .passed actor inbox position message found) : Turn actor false skips
  /-- An entry was handled; a message that cannot be written is not marked. -/
  | entry {skips inner marks hook : List Note} {inbox message : Id} {position : Nat}
    {entry : Entry}
    (passed : ∀ note ∈ skips, ∃ inbox position message found,
      note = .passed actor inbox position message found)
    (handled : Inner inner) (marked : marks = [] ∨ marks = [.marked message])
    (rendered : Inner hook) :
    Turn actor true (hook ++ marks ++ inner ++ .taken actor inbox position message entry :: skips)

/-- The state after a turn in which an entry was dealt with: its message is marked, the actor is
idle, and it is queued again if more entries are listed. -/
def World.afterTurn (world : World) (id message : Id) (more : Prop) [Decidable more] : World :=
  if more then ((world.mark message).turnTo id .idle).schedule id
  else (world.mark message).turnTo id .idle

namespace World

variable (world : World) (id message : Id) (more : Prop) [Decidable more]

lemma afterTurn_store : (world.afterTurn id message more).store = (world.mark message).store := by
  unfold afterTurn
  split <;> exact updateRunning_store _ _ _

lemma afterTurn_journal :
    (world.afterTurn id message more).journal = (world.mark message).journal := by
  unfold afterTurn
  split <;> exact updateRunning_journal _ _ _

lemma afterTurn_running :
    (world.afterTurn id message more).running = ((world.mark message).turnTo id .idle).running := by
  unfold afterTurn
  split <;> rfl

lemma afterTurn_pumping :
    (world.afterTurn id message more).pumping = world.pumping := by
  have marked := (world.mark_storeFrame message).pumping
  unfold afterTurn
  split <;> exact (updateRunning_pumping _ _ _).trans marked

end World

namespace Engine

/-- How a valid entry is dealt with. -/
inductive Dispatched (engine : Engine) (actor : Id) (running : Running) (message : Id)
    (entry : Entry) (payload : Json) (before : World) : Bool → World → Prop
  /-- A mutation is applied to the store. -/
  | mutation {after : World} (event : entry.type = before.config.mutationEvent)
    (applied : engine.applyMutation actor entry payload before = .ok () after) :
    Dispatched engine actor running message entry payload before false after
  /-- An answer to an ask that has timed out is dropped. -/
  | late (event : entry.type ≠ before.config.mutationEvent)
    (refused : (before.acceptReply actor message entry).1 = false) :
    Dispatched engine actor running message entry payload before false
      (before.acceptReply actor message entry).2
  /-- Anything else is an event for the behavior: its work is done, and then what it has staged
  is written. -/
  | interpreted {outcome : Option (Activation × Dispatch)} {worked after : World}
    {dispatch : Dispatch} {event : Event} (other : entry.type ≠ before.config.mutationEvent)
    (accepted : (before.acceptReply actor message entry).1 = true)
    (read : event = ⟨entry.type, payload, entry.source, entry.correlation⟩)
    (work : engine.runPass actor
      (running.behavior.work ⟨actor, running.config⟩ running.memory event)
      (before.acceptReply actor message entry).2 = .ok outcome worked)
    (flush : engine.runPass actor
      (running.behavior.conclude ⟨actor, running.config⟩ event outcome) worked =
        .ok dispatch after) :
    Dispatched engine actor running message entry payload before dispatch.rerender after

/-- What becomes of an entry that was picked: it is dealt with if it is valid. -/
def Validated (engine : Engine) (actor : Id) (running : Running) (message : Id) (entry : Entry)
    (busy : World) (rerender : Bool) (handled : World) : Prop :=
  match Inbox.validate busy.schemas busy.config.mutationEvent ⟨actor, running.config⟩ message
      entry.type entry.payload with
  | .invalid _ => rerender = false ∧ handled = busy
  | .valid payload => engine.Dispatched actor running message entry payload busy rerender handled

/-- How a turn goes that returns, and what it answers: whether the actor is to be rendered again, if
an entry was handled. -/
inductive Served (engine : Engine) (actor : Id) (before : World) : Option Bool → World → Prop
  /-- Nothing is done: the actor does not run, or its inbox cannot be read. -/
  | still : Served engine actor before none before
  /-- There is no entry to handle. -/
  | passed {running : Running} {inbox : Json}
    (found : before.running.find? actor = some running) (idle : running.activity = .idle)
    (nothing : (before.pick actor running (Inbox.entries inbox)).1 = none) :
    Served engine actor before none (before.pick actor running (Inbox.entries inbox)).2
  /-- The next entry is picked, validated and dealt with, and marked. -/
  | handled {running : Running} {inbox : Json} {position : Nat} {message : Id} {entry : Entry}
    {rerender : Bool} {last : World} (found : before.running.find? actor = some running)
    (idle : running.activity = .idle)
    (read : before.store.read running.config.inbox = some inbox)
    (picked : (before.pick actor running (Inbox.entries inbox)).1 = some (position, message, entry))
    (validated : engine.Validated actor running message entry
      ((before.pick actor running (Inbox.entries inbox)).2.turnTo actor
        (.handling (Inbox.entries inbox).length)) rerender last) :
    Served engine actor before (some rerender)
      (last.afterTurn actor message (position + 1 < (Inbox.entries inbox).length))

/-- The handling of the next entry of an actor: it is picked, validated, dealt with if it is
valid, and marked. -/
structure Handling (engine : Engine) (actor : Id) (before : World) where
  /-- The actor. -/
  running : Running
  /-- Its inbox. -/
  inbox : Json
  /-- The place of the entry. -/
  position : Nat
  /-- Its message. -/
  message : Id
  /-- The entry. -/
  entry : Entry
  /-- The state in which the actor is busy with the entry. -/
  busy : World
  /-- The state in which the entry has been dealt with. -/
  handled : World
  /-- Whether the actor is to be rendered again. -/
  rerender : Bool
  /-- The actor is running, -/
  found : before.running.find? actor = some running
  /-- it is not busy, -/
  idle : running.activity = .idle
  /-- its inbox can be read, -/
  read : before.store.read running.config.inbox = some inbox
  /-- and this entry is the next one to be handled in it. -/
  picked : (before.pick actor running (Inbox.entries inbox)).1 = some (position, message, entry)
  /-- The actor is busy with it from now on. -/
  turned : busy = (before.pick actor running (Inbox.entries inbox)).2.turnTo actor
    (.handling (Inbox.entries inbox).length)
  /-- The entry is validated, and dealt with if it is valid. -/
  validated : engine.Validated actor running message entry busy rerender handled
  /-- What happens meanwhile is nested. -/
  encloses : busy.Encloses handled

namespace Handling

variable {engine : Engine} {actor : Id} {before : World}

/-- The state after the handling of an entry: the message is marked, the actor is no longer busy,
and it is queued again if more entries are listed. -/
def after (handling : engine.Handling actor before) : World :=
  let idle := (handling.handled.mark handling.message).turnTo actor .idle
  if handling.position + 1 < (Inbox.entries handling.inbox).length then idle.schedule actor
  else idle

end Handling

/-- The draining of an actor: its next entry is handled, if there is one, and the actor is
rendered again if need be. -/
inductive Drained (engine : Engine) (actor : Id) (before : World) : Bool → World → Prop
  /-- There is no entry to handle. -/
  | nothing {after : World} (none : engine.handleNext actor before = .ok none after)
    (pumping : after.pumping = true) : Drained engine actor before false after
  /-- An entry is handled. -/
  | entry {after : World} (handling : engine.Handling actor before)
    (rendered : if handling.rerender then engine.rerender actor handling.after = .ok () after
      else after = handling.after)
    (encloses : handling.after.Encloses after) : Drained engine actor before true after

variable {engine : Engine} {actor message : Id} {running : Running} {entry : Entry}
variable {payload : Json} {before world after : World} {rerender did : Bool}

/-- How a valid entry is dealt with, if that returns. -/
lemma dispatch_dispatched
    (ran : engine.dispatch actor running message entry payload before = .ok rerender after) :
    engine.Dispatched actor running message entry payload before rerender after := by
  rw [dispatch, Run.get_bind] at ran
  split at ran
  · rename_i event
    obtain ⟨⟨⟩, middle, applied, returned⟩ := Run.ok_of_bind ran
    cases returned
    exact .mutation event applied
  · rename_i event
    rw [Run.modifyGet_bind] at ran
    split at ran
    · rename_i accepted
      obtain ⟨dispatch, middle, passed, returned⟩ := Run.ok_of_bind ran
      cases returned
      obtain ⟨outcome, worked, work, flush⟩ := Engine.runPass_bind passed
      exact .interpreted event accepted rfl work flush
    · rename_i refused
      cases ran
      exact .late event (Bool.eq_false_iff.2 refused)

lemma acceptReply_encloses (actor message : Id) (entry : Entry)
    (pumping : world.pumping = true) :
    world.Encloses (world.acceptReply actor message entry).2 := by
  rcases acceptReply_cases world actor message entry with same | ⟨_, _, -, -, -, -, done⟩
  · rw [same]
    exact .refl pumping
  · rw [done]
    exact .of_note pumping rfl rfl rfl

/-- Dealing with an entry is nested in its handling. -/
lemma Dispatched.encloses (keeps : engine.Keeps Nested Nested)
    (dispatched : engine.Dispatched actor running message entry payload before rerender after)
    (pumping : before.pumping = true) : before.Encloses after := by
  cases dispatched with
  | mutation event applied =>
    exact (applyMutation_keeps nested_frame keeps _ _ _ _).ok applied pumping
  | late event refused => exact acceptReply_encloses actor message entry pumping
  | interpreted other accepted read work flush =>
    have remember := fun world => remember_nested world actor
    have replied := acceptReply_encloses actor message entry pumping
    have worked := (runPass_keeps nested_frame keeps remember _ _).ok work replied.pumping
    have flushed := (runPass_keeps nested_frame keeps remember _ _).ok flush worked.pumping
    exact (replied.trans worked).trans flushed

/-- An entry is marked after it has been dealt with. -/
lemma handleEntry_validated
    (ran : engine.handleEntry actor running message entry before = .ok rerender after) :
    ∃ handled, engine.Validated actor running message entry before rerender handled ∧
      after = handled.mark message := by
  rw [handleEntry, Run.get_bind] at ran
  unfold Validated
  dsimp only at ran
  cases verdict : Inbox.validate before.schemas before.config.mutationEvent
      ⟨actor, running.config⟩ message entry.type entry.payload with
  | invalid errors =>
    rw [verdict] at ran
    cases ran
    exact ⟨before, ⟨rfl, rfl⟩, rfl⟩
  | valid payload =>
    rw [verdict] at ran
    obtain ⟨answer, handled, dispatched, marked⟩ := Run.ok_of_bind ran
    cases marked
    exact ⟨handled, dispatch_dispatched dispatched, rfl⟩

lemma Validated.encloses (keeps : engine.Keeps Nested Nested)
    (validated : engine.Validated actor running message entry before rerender after)
    (pumping : before.pumping = true) : before.Encloses after := by
  unfold Validated at validated
  split at validated
  · rw [validated.2]
    exact .refl pumping
  · exact validated.encloses keeps pumping

/-- How the turn of an actor goes, if it returns. -/
lemma handleNext_served {answer : Option Bool}
    (ran : engine.handleNext actor before = .ok answer after) :
    engine.Served actor before answer after := by
  have turn := engine.handleNext_turn actor before
  rw [ran] at turn
  cases turn with
  | stopped | unread => exact .still
  | passed found idle read nothing => exact .passed found idle nothing
  | handled found idle read picked handled =>
    obtain ⟨last, validated, rfl⟩ := handleEntry_validated handled
    exact .handled found idle read picked validated

/-- Looking for the next entry goes on with the pump that is under way. -/
lemma pick_pumping (world : World) (actor : Id) (running : Running) (listed : List Id) :
    (world.pick actor running listed).2.pumping = world.pumping := by
  rw [world.pick_frame actor running listed]

/-- The handling of an entry, if it returns. -/
lemma handleNext_handling (keeps : engine.Keeps Nested Nested) (pumping : before.pumping = true)
    (ran : engine.handleNext actor before = .ok (some rerender) after) :
    ∃ handling : engine.Handling actor before,
      handling.after = after ∧ handling.rerender = rerender := by
  cases handleNext_served ran with
  | @handled running inbox position message entry _ last found idle read picked validated =>
    have busy : ((before.pick actor running (Inbox.entries inbox)).2.turnTo actor
        (.handling (Inbox.entries inbox).length)).pumping = true := by
      rw [turnTo, updateRunning_pumping, pick_pumping]
      exact pumping
    exact ⟨⟨running, inbox, position, message, entry, _, last, rerender, found, idle, read, picked,
      rfl, validated, validated.encloses keeps busy⟩, rfl, rfl⟩

/-- What is noted of entries that are passed over. -/
lemma passed_of_mem_skips {inbox : Id} {look : Inbox.Look} {note : Note}
    (mem : note ∈ (look.passed.map fun skip =>
      Note.passed actor inbox skip.position skip.message skip.found).reverse) :
    ∃ inbox position message found, note = .passed actor inbox position message found := by
  obtain ⟨skip, -, rfl⟩ := List.mem_map.1 (List.mem_reverse.1 mem)
  exact ⟨_, _, _, _, rfl⟩

/-- If there is no entry to handle, entries may have been passed over. -/
lemma handleNext_nothing (ran : engine.handleNext actor before = .ok none after) :
    after.pumping = before.pumping ∧ ∃ skips, after.journal = skips ++ before.journal ∧
      ∀ note ∈ skips, ∃ inbox position message found,
        note = .passed actor inbox position message found := by
  cases handleNext_served ran with
  | still => exact ⟨rfl, [], rfl, by simp⟩
  | @passed running inbox found idle nothing =>
    have journal := before.pick_journal actor running (Inbox.entries inbox)
    rw [lookNotes, ← pick_fst, nothing] at journal
    exact ⟨pick_pumping _ _ _ _, _, journal, fun note => passed_of_mem_skips⟩

/-- What the handling of an entry notes. -/
lemma Handling.journal (handling : engine.Handling actor before) :
    ∃ skips inner marks, handling.after.journal = marks ++ inner ++
        .taken actor handling.running.config.inbox handling.position handling.message
          handling.entry :: (skips ++ before.journal) ∧
      (∀ note ∈ skips, ∃ inbox position message found,
        note = Note.passed actor inbox position message found) ∧
      Journal.Inner inner ∧ (marks = [] ∨ marks = [.marked handling.message]) := by
  obtain ⟨skips, picked, passed⟩ : ∃ skips,
      (before.pick actor handling.running (Inbox.entries handling.inbox)).2.journal =
        .taken actor handling.running.config.inbox handling.position handling.message
          handling.entry :: (skips ++ before.journal) ∧
      ∀ note ∈ skips, ∃ inbox position message found,
        note = Note.passed actor inbox position message found := by
    have journal := before.pick_journal actor handling.running (Inbox.entries handling.inbox)
    rw [lookNotes, ← pick_fst, handling.picked] at journal
    exact ⟨_, journal, fun note => passed_of_mem_skips⟩
  obtain ⟨inner, dealt, nested⟩ := handling.encloses.journal
  rw [handling.turned, turnTo, updateRunning_journal, picked] at dealt
  obtain ⟨marks, marked, either⟩ := mark_journal handling.handled handling.message
  have after : handling.after.journal = (handling.handled.mark handling.message).journal :=
    afterTurn_journal _ _ _ _
  exact ⟨skips, inner, marks, by rw [after, marked, dealt, List.append_assoc], passed, nested,
    either⟩

/-- What a drain notes. -/
lemma Drained.journal (drained : engine.Drained actor before did after) :
    ∃ notes, after.journal = notes ++ before.journal ∧ Journal.Turn actor did notes := by
  cases drained with
  | nothing none pumping =>
    obtain ⟨-, skips, eq, passed⟩ := handleNext_nothing none
    exact ⟨skips, eq, .nothing passed⟩
  | entry handling rendered encloses =>
    obtain ⟨skips, inner, marks, eq, passed, nested, marked⟩ := handling.journal
    obtain ⟨hook, eq', nested'⟩ := encloses.journal
    have turn : Journal.Turn actor true (hook ++ marks ++ inner ++ .taken actor
        handling.running.config.inbox handling.position handling.message handling.entry :: skips) :=
      .entry passed nested marked nested'
    exact ⟨_, by simp [eq', eq], turn⟩

/-! ## One entry after the other -/

lemma rerender_encloses (keeps : engine.Keeps Nested Nested) (pumping : before.pumping = true)
    (ran : engine.rerender actor before = .ok () after) : before.Encloses after := by
  rw [rerender, Run.get_bind] at ran
  cases hook : before.onRerender with
  | none =>
    rw [hook] at ran
    cases ran
    exact .refl pumping
  | some script =>
    rw [hook] at ran
    obtain ⟨⟨⟩, middle, noted, ran⟩ := Run.ok_of_bind ran
    cases noted
    obtain ⟨still, journal⟩ :=
      (runScript_keeps nested_frame keeps (script actor) _).ok ran pumping
    exact ⟨still, journal⟩

/-- A drain that returns. -/
lemma drain_drained (keeps : engine.Keeps Nested Nested) (pumping : before.pumping = true)
    (ran : engine.drain actor before = .ok did after) : engine.Drained actor before did after := by
  obtain ⟨outcome, middle, handled, ran⟩ := Run.ok_of_bind ran
  cases outcome with
  | none =>
    cases ran
    exact .nothing handled ((handleNext_nothing handled).1.trans pumping)
  | some rerender =>
    obtain ⟨handling, rfl, rfl⟩ := handleNext_handling keeps pumping handled
    have idle : handling.after.pumping = true :=
      (afterTurn_pumping _ _ _ _).trans handling.encloses.pumping
    dsimp only at ran
    by_cases again : handling.rerender = true
    · rw [if_pos again] at ran
      obtain ⟨⟨⟩, last, rendered, returned⟩ := Run.ok_of_bind ran
      cases returned
      exact .entry handling (by rwa [if_pos again]) (rerender_encloses keeps idle rendered)
    · rw [if_neg again] at ran
      cases ran
      exact .entry handling (by rw [if_neg again]) (.refl idle)

lemma Drained.pumping (drained : engine.Drained actor before did after) :
    after.pumping = true := by
  cases drained with
  | nothing _ pumping => exact pumping
  | entry _ _ encloses => exact encloses.pumping

end Engine

namespace Sample

/-- A runtime in which the actor was just started, and queued actors are being served. -/
def serving : World :=
  match (engine 1).spawn actor
      (World.new {} (Store.ofImage ⟨.ofNat, 10⟩ image) ⟨.ofNat, 0⟩ ⟨0, 1000⟩) with
  | .ok _ world => { world with pumping := true }
  | .error _ world => world

end Sample

end Troupe
