import Troupe.Proofs.World.Tenure
import Troupe.Proofs.World.Waiting

/-!
# A message to an actor that does not run

A message may lie in the inbox of an actor that does not run, because nobody could start it.
Whatever else happens, it stays there as long as others let it: other commands may come between,
and the actor may even run for a while, as long as they leave the inbox and the message alone
(`World.Awaits.moves`).  When the actor is started, it begins at the start of its inbox, so the
message lies before it, and it is queued when its start pass is over; so the pump that follows comes
to the message.

## Main results

* `World.Awaits.moves`: the message waits, or the actor has taken it;
* `World.LeftTo.untaken`: it has not as long as no command starts it;
* `World.Lies.steps_cases`: a message that lies before its reader is taken by it, or lies there
  still;
* `Session.spawn_takes`: a start that succeeds has the message handled.
-/

namespace Troupe

open Relation

namespace ActorConfig

/-- A record that can be read names the inbox that it is read with. -/
lemma inbox_eq {record : Json} {config : ActorConfig} {inbox : Id}
    (named : inboxOf? record = some inbox) (read : ofJson? record = some config) :
    config.inbox = inbox := by
  cases record with
  | obj fields =>
    simp only [ofJson?, Json.named?, Json.required?, Option.bind_eq_bind, Option.bind_some] at read
    rw [← inboxOf?, named] at read
    simp only [Option.bind_eq_some_iff, Option.bind_some] at read
    obtain ⟨_, -, _, -, _, -, _, -, _, -, _, -, ⟨⟩⟩ := read
    rfl
  | _ => cases named

end ActorConfig

namespace World

variable {world before middle after : World} {actor inbox message : Id} {place position : Nat}
variable {entry found : Entry} {config : ActorConfig}

/-! ## Entries that are taken -/

/-- An entry is taken by a running actor that looks for the next entry of its inbox. -/
lemma Shift.taken_cases (shift : Shift before after) {home : Id}
    (new : before.Newly after (.taken actor home position message found)) :
    ∃ running, before.running.find? actor = some running ∧ running.config.inbox = home ∧
      (before.store.read message).bind Entry.ofJson? = some found := by
  cases shift with
  | still notes kept journal silent =>
    cases silent _ ((newly_iff notes journal).1 new)
  | @look other running look there looked kept journal =>
    have mem := (newly_iff _ journal).1 new
    obtain ⟨_, _, _, looks⟩ := looks_of_mem mem
    cases looks
    subst looked
    exact ⟨running, there, rfl, found_of_mem mem (.taken found)⟩
  | @start other config kept journal =>
    cases List.mem_singleton.1 ((newly_iff [_] journal).1 new)

/-- A message that is left to an actor is taken by it in a move, as it was posted, or not at all. -/
lemma LeftTo.untaken_or_taken (left : before.LeftTo after message actor)
    (move : Move before after) (untaken : before.Untaken message)
    (stored : (before.store.read message).bind Entry.ofJson? = some entry) :
    after.Untaken message ∨ ∃ running position, before.running.find? actor = some running ∧
      .taken actor running.config.inbox position message entry ∈ after.journal := by
  refine (untaken.or_newly move.suffix).imp_right ?_
  rintro ⟨other, home, position, found, new⟩
  obtain rfl := left.taken other home position found new
  obtain ⟨running, there, rfl, read⟩ := move.shift.taken_cases new
  obtain rfl := Option.some.inj (stored.symm.trans read)
  exact ⟨running, position, there, new.mem⟩

/-- A message that lies before its reader is taken by it in a step, as it was posted, or lies there
still and is taken by nobody. -/
lemma Lies.step_cases (lies : before.Lies actor inbox message entry place)
    (step : Step before after) (undisturbed : before.Undisturbed after actor inbox message)
    (untaken : before.Untaken message) :
    (after.Lies actor inbox message entry place ∧ after.Untaken message) ∨
      ∃ position, .taken actor inbox position message entry ∈ after.journal := by
  rcases undisturbed.untaken_or_taken (.inl (.step step)) untaken lies.stored with
    untaken | ⟨running, position, there, taken⟩
  · exact .inl ⟨lies.step step undisturbed untaken, untaken⟩
  · obtain ⟨reader, there', rfl, -⟩ := lies.reader
    obtain rfl := Option.some.inj (there'.symm.trans there)
    exact .inr ⟨position, taken⟩

/-- **A message that lies before its reader is taken by it, as it was posted, or lies there still**,
if it is left to its reader and its inbox is only pushed to. -/
theorem Lies.steps_cases (lies : before.Lies actor inbox message entry place)
    (steps : Steps before after) (undisturbed : before.Undisturbed after actor inbox message)
    (untaken : before.Untaken message) :
    (after.Lies actor inbox message entry place ∧ after.Untaken message) ∨
      ∃ position, .taken actor inbox position message entry ∈ after.journal := by
  induction steps with
  | refl => exact .inl ⟨lies, untaken⟩
  | @tail middle after first last ih =>
    have early := Steps.records first
    have late := last.changes.records
    rcases ih (undisturbed.between (.refl _) late) with ⟨lies, untaken⟩ | ⟨position, taken⟩
    · exact lies.step_cases last (undisturbed.between early (.refl _)) untaken
    · exact .inr ⟨position, late.journal.subset taken⟩

/-! ## Messages that wait for a start -/

/-- The record of an actor names an inbox. -/
def NamesInbox (world : World) (actor inbox : Id) : Prop :=
  ∃ record, world.store.read actor = some record ∧ ActorConfig.inboxOf? record = some inbox

/-- A message waits in the inbox of an actor that does not run. -/
structure Awaits (world : World) (actor inbox message : Id) (entry : Entry) : Prop where
  /-- The actor does not run, -/
  stopped : world.running.contains actor = false
  /-- and its record names the inbox. -/
  named : world.NamesInbox actor inbox
  /-- Entries can be pushed to the inbox, -/
  lists : world.store.Lists inbox
  /-- which lists the message. -/
  listed : message ∈ Inbox.listed world.store inbox
  /-- The message can be read, -/
  stored : (world.store.read message).bind Entry.ofJson? = some entry
  /-- and was not handled: it is not marked, -/
  unprocessed : entry.processed = false
  /-- and nobody has taken it. -/
  untaken : world.Untaken message

/-- An actor that does not run did not run before: only commands stop actors. -/
lemma Step.stopped (step : Step before after) (stopped : after.running.contains actor = false) :
    before.running.contains actor = false := by
  rw [Bool.eq_false_iff] at stopped ⊢
  intro runs
  obtain ⟨running, found⟩ := Option.isSome_iff_exists.1 runs
  obtain ⟨new, there, -⟩ := (step.changes.routes actor).kept actor running found
  exact stopped (Option.isSome_iff_exists.2 ⟨new, there⟩)

/-- As long as the only one who may take a message does not run, nobody takes it. -/
lemma LeftTo.untaken (left : before.LeftTo after message actor) (steps : Steps before after)
    (stopped : after.running.contains actor = false) (untaken : before.Untaken message) :
    after.Untaken message := by
  induction steps with
  | refl => exact untaken
  | @tail middle after first last ih =>
    have early := Steps.records first
    have idle := last.stopped stopped
    have untaken := ih (left.of_suffix (List.suffix_refl _) last.suffix) idle
    rcases untaken.or_newly last.suffix with untaken | ⟨other, home, position, found, new⟩
    · exact untaken
    · obtain rfl := left.taken other home position found (new.left early.journal)
      obtain ⟨running, there, -⟩ := last.shift.taken_cases new
      rw [Table.contains, there] at idle
      cases idle

/-- A move that leaves an inbox and a message alone: what a command does on its own account does not
change them.  (What passes and tools do is in the journal.) -/
def LeavesAlone (inbox message : Id) (before after : World) : Prop :=
  StepOrBreak before after ∨ Order before after ∧
    after.store.read inbox = before.store.read inbox ∧
    after.store.read message = before.store.read message

lemma LeavesAlone.move (alone : LeavesAlone inbox message before after) : Move before after :=
  alone.imp_right And.left

lemma LeavesAlone.moves (alone : ReflTransGen (LeavesAlone inbox message) before after) :
    Moves before after :=
  ReflTransGen.mono (fun _ _ => LeavesAlone.move) _ _ alone

lemma Steps.leaveAlone (steps : Steps before after) (inbox message : Id) :
    ReflTransGen (LeavesAlone inbox message) before after :=
  ReflTransGen.mono (fun _ _ step => .inl (.step step)) _ _ steps

/-- A message is in an inbox, and nobody has taken it. -/
structure Remains (world : World) (inbox message : Id) (entry : Entry) : Prop where
  /-- Entries can be pushed to the inbox, -/
  lists : world.store.Lists inbox
  /-- which lists the message. -/
  listed : message ∈ Inbox.listed world.store inbox
  /-- The message can be read, -/
  stored : (world.store.read message).bind Entry.ofJson? = some entry
  /-- and nobody has taken it. -/
  untaken : world.Untaken message

/-- A message that nobody takes in a move is in its inbox after it, if both are left alone. -/
lemma Remains.of_untaken (remains : before.Remains inbox message entry)
    (alone : LeavesAlone inbox message before after)
    (undisturbed : before.Undisturbed after actor inbox message)
    (untaken : after.Untaken message) : after.Remains inbox message entry := by
  rcases alone with stepOrBreak | ⟨-, sameInbox, sameMessage⟩
  · obtain ⟨lists, longer⟩ := (StepsOrBreaks.changes (.single stepOrBreak)).appends
      undisturbed.pushed undisturbed.oldInbox remains.lists
    have same : after.store.read message = before.store.read message := by
      cases stepOrBreak with
      | step step =>
        exact undisturbed.toLeftTo.read_eq (.single step) undisturbed.oldMessage untaken
      | breakOff => rw [turnTo, updateRunning_store]
      | jam => rfl
    exact ⟨lists, longer.subset remains.listed, same ▸ remains.stored, untaken⟩
  · obtain ⟨lists, longer⟩ := Store.Appends.of_read_eq sameInbox remains.lists
    exact ⟨lists, longer.subset remains.listed, sameMessage ▸ remains.stored, untaken⟩

/-- A message remains in its inbox, or the actor that it is left to takes it as it was posted. -/
lemma Remains.move (remains : before.Remains inbox message entry)
    (alone : LeavesAlone inbox message before after)
    (undisturbed : before.Undisturbed after actor inbox message) :
    after.Remains inbox message entry ∨
      ∃ home position, .taken actor home position message entry ∈ after.journal := by
  rcases undisturbed.untaken_or_taken alone.move remains.untaken remains.stored with
    untaken | ⟨running, position, -, taken⟩
  · exact .inl (remains.of_untaken alone undisturbed untaken)
  · exact .inr ⟨_, position, taken⟩

lemma Remains.moves (remains : before.Remains inbox message entry)
    (alone : ReflTransGen (LeavesAlone inbox message) before after)
    (undisturbed : before.Undisturbed after actor inbox message) :
    after.Remains inbox message entry ∨
      ∃ home position, .taken actor home position message entry ∈ after.journal := by
  induction alone with
  | refl => exact .inl remains
  | @tail middle after first last ih =>
    have early := LeavesAlone.moves first
    have late : Moves middle after := .single last.move
    rcases ih (undisturbed.amid .refl late) with remains | ⟨home, position, taken⟩
    · exact remains.move last (undisturbed.amid early .refl)
    · exact .inr ⟨home, position, (Moves.suffix late).subset taken⟩

/-- **A message goes on waiting for an actor, or the actor has taken it**, whatever is done, if the
message and its inbox are left alone, and in the end the actor does not run and its record names the
inbox. -/
theorem Awaits.moves (awaits : before.Awaits actor inbox message entry)
    (alone : ReflTransGen (LeavesAlone inbox message) before after)
    (undisturbed : before.Undisturbed after actor inbox message)
    (stopped : after.running.contains actor = false) (named : after.NamesInbox actor inbox) :
    after.Awaits actor inbox message entry ∨
      ∃ home position, .taken actor home position message entry ∈ after.journal := by
  have remains : before.Remains inbox message entry :=
    ⟨awaits.lists, awaits.listed, awaits.stored, awaits.untaken⟩
  refine (remains.moves alone undisturbed).imp_left fun remains => ?_
  exact ⟨stopped, named, remains.lists, remains.listed, remains.stored, awaits.unprocessed,
    remains.untaken⟩

/-- When the actor is entered among those that run, the message lies before it. -/
lemma Awaits.lies (awaits : world.Awaits actor inbox message entry)
    (record : world.actorConfig actor = .ok config) (behavior : Behavior) :
    ∃ place, ((world.enlist actor config behavior).turnTo actor .starting).Lies actor inbox message
      entry place := by
  obtain ⟨content, read, named⟩ := awaits.named
  obtain ⟨content', read', decoded⟩ := exists_record_of_actorConfig record
  obtain rfl := Option.some.inj (read.symm.trans read')
  have same : config.inbox = inbox := ActorConfig.inbox_eq named decoded
  obtain ⟨place, there⟩ := List.mem_iff_getElem?.1 awaits.listed
  have store : ∀ id, ((world.enlist actor config behavior).turnTo actor .starting).store.read id =
      world.store.read id := fun id => by
    rw [turnTo, updateRunning_store]
    rfl
  refine ⟨place, ⟨_, Engine.enlist_found world actor config behavior, same, Nat.zero_le _⟩, ?_, ?_,
    ?_, awaits.unprocessed⟩
  · obtain ⟨object, items, found, listed⟩ := awaits.lists
    exact ⟨object, items, (store inbox).trans found, listed⟩
  · rw [Inbox.listed, store]
    exact there
  · rw [store]
    exact awaits.stored

end World

/-! ## Starting the actor -/

namespace Engine

open World

variable {engine : Engine} {actor : Id} {world after : World}

/-- How a start goes that succeeds, of an actor that did not run. -/
lemma spawnWith_ok (bySteps : engine.BySteps) (stopped : world.running.contains actor = false)
    (ran : engine.spawnWith actor world = .ok (.ok ()) after) :
    ∃ config behavior, world.actorConfig actor = .ok config ∧
      Behavior.load config.behavior world.config = .ok behavior ∧
      Steps ((world.enlist actor config behavior).turnTo actor .starting) after ∧
      actor ∈ after.ready.order := by
  have startup := engine.spawnWith_startup actor world
  rw [ran] at startup
  cases startup with
  | running runs =>
    rw [stopped] at runs
    cases runs
  | @passed config behavior last _ record loaded passed =>
    obtain ⟨steps, nests⟩ := (start_bySteps bySteps actor config behavior world).ok passed
    obtain ⟨running, found, kept⟩ :=
      nests.kept actor _ (enlist_found world actor config behavior)
    exact ⟨config, behavior, record, loaded, .tail steps (.started found kept.activity),
      ReadyQueue.mem_push _ _⟩

end Engine

open World

variable {config : Config} {supply : Supply} {image : StoreImage} {correlations : Supply}
variable {clock : Clock} {world after : World} {actor inbox message : Id} {entry : Entry}

/-- Starting an actor and handling what waits goes by steps. -/
lemma World.spawn_steps {fuel : Nat} {result : Except RuntimeError Unit}
    (ran : World.spawn fuel actor world = .ok result after) : Steps world after := by
  obtain ⟨answer, middle, started, ran⟩ := Run.ok_of_bind ran
  obtain ⟨start, -⟩ := ((engine_bySteps fuel).spawn actor world).ok started
  cases answer with
  | error error =>
    cases ran
    exact start
  | ok =>
    obtain ⟨handled, last, pumped, returned⟩ := Run.ok_of_bind ran
    cases returned
    exact start.trans (((engine_bySteps fuel).pump middle).ok pumped).1

/-- **A start that succeeds has the message handled.**  When the actor is started that a message
waits for, it takes the message before the command returns, if the message is left to it. -/
theorem Session.spawn_takes
    (session : Session (World.new config (Store.ofImage supply image) correlations clock) world)
    (awaits : world.Awaits actor inbox message entry) {fuel : Nat}
    (ran : World.spawn fuel actor world = .ok (.ok ()) after)
    (undisturbed : world.Undisturbed after actor inbox message) :
    ∃ position, .taken actor inbox position message entry ∈ after.journal := by
  obtain ⟨watchful, -, idle, outermost⟩ := session.watchful
  obtain ⟨answer, middle, started, ran⟩ := Run.ok_of_bind ran
  obtain _ | ⟨⟩ := answer
  · cases ran
  obtain ⟨handled, last, pumped, returned⟩ := Run.ok_of_bind ran
  cases returned
  obtain ⟨start, begins⟩ := ((engine_bySteps fuel).spawn actor world).ok started
  obtain ⟨rest, ends⟩ := ((engine_bySteps fuel).pump middle).ok pumped
  cases fuel with
  | zero => cases started
  | succ depth =>
    change Engine.spawnAt (depth + 1) actor world = _ at started
    rw [Engine.spawnAt] at started
    obtain ⟨config, behavior, record, loaded, pass, queued⟩ :=
      Engine.spawnWith_ok (engine_bySteps depth) awaits.stopped started
    obtain ⟨place, lies⟩ := awaits.lies record behavior
    have enlist := Step.enlist awaits.stopped record loaded
    have early := Steps.records (.single enlist)
    -- it is not taken by being entered, and from then on it lies before the actor or is taken
    have untaken : ((world.enlist actor config behavior).turnTo actor .starting).Untaken message := by
      intro other home position found mem
      rw [turnTo, updateRunning_journal] at mem
      rcases List.mem_cons.1 mem with new | old
      · cases new
      · exact awaits.untaken other home position found old
    rcases lies.steps_cases (pass.trans rest) (undisturbed.between early (.refl _)) untaken with
      ⟨lies, -⟩ | taken
    · have awake := ((watchful.calm start.calm).of_queued queued).calm rest.calm
      exact absurd (Engine.pump_serves _ (begins.pumping.trans outermost) pumped)
        (lies.not_served awake (ends.idle (begins.idle idle)))
    · exact taken

end Troupe
