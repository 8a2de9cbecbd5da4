import Troupe.Proofs.World.Apart
import Troupe.Proofs.World.Customs
import Troupe.Proofs.World.Moves
import Troupe.Proofs.World.Nesting

/-!
# The tenure of an actor

From its start until it is stopped, what the behavior of an actor remembers is changed by the
actor's own passes and by nothing else.  So a property of one actor that is stable while the
actor is left alone holds whenever no pass is under way, if its own start and its own turns keep
it.

## Main results

* `Engine.spawnWith_started`: how a start goes that returns;
* `Engine.Served.during`, `Engine.Started.begins`: what the turn and the start of an actor make of
  what is known of it;
* `engine_spares`: the engine keeps a property that the actor's own start and turns keep;
* `Quiet.maintains`: so does everything else, until the actor is stopped;
* `Quiet.exists_outset`: every actor that runs was started, and not stopped since.
-/

namespace Troupe

/-! ## Starts and turns -/

namespace World

variable (world : World) (id message : Id) (more : Prop) [Decidable more]

lemma afterTurn_apart {actor : Id} (ne : id ≠ actor) :
    world.Apart actor (world.afterTurn id message more) := by
  have marked := (world.mark_storeFrame message).apart actor
  exact ⟨by rw [afterTurn_store]; exact marked.store,
    marked.continues.trans (.of_eq (world.afterTurn_journal id message more)),
    by rw [afterTurn_running]; exact (marked.trans (turnTo_apart ne _ .idle)).running⟩

end World

namespace Engine

open World

variable {engine : Engine} {actor id message : Id} {P : World → Prop}
variable {world after : World} {running : Running} {entry : Entry}

/-- How a start goes that returns. -/
inductive Started (engine : Engine) (id : Id) (world : World) : World → Prop
  /-- Nothing is done: the actor runs already, or its record is missing or malformed. -/
  | still : Started engine id world world
  /-- The actor is entered among those that run, and its start pass is run. -/
  | started {config : ActorConfig} {behavior : Behavior} {last : World}
    (stopped : world.running.find? id = none) (record : world.actorConfig id = .ok config)
    (loaded : Behavior.load config.behavior world.config = .ok behavior)
    (passed : engine.runPass id (behavior.start ⟨id, config⟩ behavior.initialMemory)
      ((world.enlist id config behavior).turnTo id .starting) = .ok () last) :
    Started engine id world ((last.turnTo id .idle).schedule id)

lemma spawnWith_started {result : Except RuntimeError Unit}
    (ran : engine.spawnWith id world = .ok result after) : engine.Started id world after := by
  have startup := engine.spawnWith_startup id world
  rw [ran] at startup
  cases startup with
  | running | unrecorded | unloaded => exact .still
  | passed stopped record loaded passed =>
    exact .started (Table.find?_of_not_contains stopped) record loaded passed

/-- An actor that has looked for its next entry. -/
lemma pick_found (listed : List Id) (found : world.running.find? id = some running) :
    (world.pick id running listed).2.running.find? id = some
      { running with cursor := (world.lookFor running listed).cursor } := by
  rw [find?_pick, if_pos rfl, found]
  rfl

/-- What is done with an entry of one actor leaves another one alone, but for what that does
meanwhile. -/
lemma Validated.spares {rerender : Bool} (stable : Stable actor P)
    (minds : engine.Minds actor P) (ne : id ≠ actor)
    (validated : engine.Validated id running message entry world rerender after) :
    Spares actor P world after := by
  have frame := Spares.frame stable
  have remember : ∀ world memory, Spares actor P world (world.remember id memory) :=
    fun world memory => (remember_apart ne world memory).spares stable
  unfold Validated at validated
  split at validated
  · obtain ⟨-, rfl⟩ := validated
    exact frame.refl _
  · cases validated with
    | mutation event applied => exact (applyMutation_keeps frame minds _ _ _ _).ok applied
    | late event refused => exact (acceptReply_apart _ _ _ _ _).spares stable
    | interpreted other accepted read work flush =>
      have replied := (world.acceptReply_apart id message entry actor).spares stable
      exact (replied.trans ((runPass_keeps frame minds remember _ _).ok work)).trans
        ((runPass_keeps frame minds remember _ _).ok flush)

/-- What the turn of an actor makes of what the behavior remembers: it stays, or the behavior
handles an event, and it is what that pass leaves. -/
inductive Alters (engine : Engine) (id : Id) (running : Running) (before after : Store) :
    Memory → Prop
  /-- It stays. -/
  | stays : Alters engine id running before after running.memory
  /-- An event is handled by the actor, which was idle before. -/
  | handles {world worked last : World} {busy done : Running} {event : Event}
    {outcome : Option (Activation × Dispatch)} {dispatch : Dispatch} {log : List Exchange}
    (idle : running.activity = .idle) (earlier : before.Since world.store)
    (found : world.running.find? id = some busy) (turned : busy.activity ≠ .idle)
    (same : busy.memory = running.memory)
    (work : engine.runPass id
      (running.behavior.work ⟨id, running.config⟩ running.memory event) world = .ok outcome worked)
    (flush : engine.runPass id
      (running.behavior.conclude ⟨id, running.config⟩ event outcome) worked = .ok dispatch last)
    (during : world.During id busy last done)
    (yields : (running.behavior.send ⟨id, running.config⟩ running.memory event).Yields
      running.memory log dispatch done.memory)
    (later : last.store.Since after) : Alters engine id running before after done.memory

lemma Alters.of_since {first before after last : Store} {memory : Memory}
    (alters : engine.Alters id running before after memory) (earlier : first.Since before)
    (later : after.Since last) : engine.Alters id running first last memory := by
  cases alters with
  | stays => exact .stays
  | handles idle begun found turned same work flush during yields ended =>
    exact .handles idle (earlier.trans begun) found turned same work flush during yields
      (ended.trans later)

lemma Alters.of_busy {before after : Store} {memory : Memory}
    (alters : engine.Alters id running before after memory) (busy : running.activity ≠ .idle) :
    memory = running.memory := by
  cases alters with
  | stays => rfl
  | handles idle => exact absurd idle busy

/-- What is done with an entry of an actor leaves what is known of it, but for what its behavior
remembers. -/
lemma Validated.during {current : Running} {rerender : Bool} (stable : Stable actor P)
    (minds : engine.Minds actor P) (found : world.running.find? actor = some current)
    (busy : current.activity ≠ .idle) (idle : running.activity = .idle)
    (same : current.memory = running.memory)
    (validated : engine.Validated actor running message entry world rerender after) :
    ∃ new, world.During actor current after new ∧
      engine.Alters actor running world.store after.store new.memory := by
  have frame := Spares.frame stable
  unfold Validated at validated
  split at validated
  · obtain ⟨-, rfl⟩ := validated
    exact ⟨current, (Apart.refl _ _).during found, same ▸ .stays⟩
  · cases validated with
    | mutation event applied =>
      obtain ⟨new, during, kept⟩ :=
        ((applyMutation_keeps frame minds _ _ _ _).ok applied).during found busy
      exact ⟨new, during, kept.trans same ▸ .stays⟩
    | late event refused =>
      exact ⟨current, (acceptReply_apart _ _ _ _ _).during found, same ▸ .stays⟩
    | interpreted other accepted read work flush =>
      have replied := (world.acceptReply_apart actor message entry actor).during found
      obtain ⟨log, mid, working, works⟩ := runPass_yields stable minds replied.found busy work
      obtain ⟨told, new, flushing, ends⟩ :=
        runPass_yields stable minds working.found (working.kept.activity ▸ busy) flush
      rw [same] at works
      exact ⟨new, (replied.trans working).trans flushing,
        .handles idle replied.store replied.found busy same work flush (working.trans flushing)
          (Pass.yields_bind.2 ⟨log, told, _, _, rfl, works, ends⟩) (.refl _)⟩

/-- The turn of an actor leaves what is known of it, but for what its behavior remembers and where
it is in its inbox. -/
lemma Served.during {answer : Option Bool} (stable : Stable actor P)
    (minds : engine.Minds actor P) (served : engine.Served actor world answer after)
    (found : world.running.find? actor = some running) :
    ∃ new, world.During actor running after new ∧
      engine.Alters actor running world.store after.store new.memory := by
  cases served with
  | still => exact ⟨running, (Apart.refl _ _).during found, .stays⟩
  | @passed _ inbox there idle =>
    obtain rfl := Option.some.inj (found.symm.trans there)
    exact ⟨_, ⟨pick_found _ found, ⟨rfl, rfl, rfl, rfl, fun busy => absurd idle busy⟩,
      by rw [pick_store]; exact .refl _, _, pick_journal _ _ _ _, lookNotes_ends⟩, .stays⟩
  | @handled current inbox position message entry rerender last there idle read picked validated =>
    obtain rfl := Option.some.inj (found.symm.trans there)
    let listed := Inbox.entries inbox
    have begun := turnTo_found (.handling listed.length) (pick_found listed found)
    have picked : world.store.Since
          ((world.pick actor running listed).2.turnTo actor (.handling listed.length)).store ∧
        world.Continues actor
          ((world.pick actor running listed).2.turnTo actor (.handling listed.length)) := by
      rw [Continues, turnTo, updateRunning_store, updateRunning_journal, pick_store]
      exact ⟨.refl _, _, pick_journal _ _ _ _, lookNotes_ends⟩
    obtain ⟨mid, during, alters⟩ := validated.during stable minds begun (by simp) idle rfl
    have marked := ((last.mark_storeFrame message).apart actor).during during.found
    have kept := during.kept.trans marked.kept
    refine ⟨{ mid with activity := .idle }, ⟨?_,
      ⟨kept.config, kept.behavior, kept.subscription, idle.symm, fun busy => absurd idle busy⟩,
      ?_, ?_⟩, ?_⟩
    · rw [afterTurn_running]
      exact turnTo_found .idle marked.found
    · rw [afterTurn_store]
      exact (picked.1.trans during.store).trans marked.store
    · exact ((picked.2.trans during.continues).trans marked.continues).trans
        (.of_eq (afterTurn_journal _ _ _ _))
    · rw [afterTurn_store]
      exact alters.of_since picked.1 marked.store

/-- An actor that does not run has no turn. -/
lemma Served.eq_of_stopped {answer : Option Bool} (served : engine.Served id world answer after)
    (stopped : world.running.find? id = none) : after = world := by
  cases served with
  | still => rfl
  | passed found => cases stopped.symm.trans found
  | handled found => cases stopped.symm.trans found

/-- What the start of an actor comes to: the actor runs, and remembers what its start pass leaves. -/
structure Begins (engine : Engine) (id : Id) (world after : World) (new : Running) : Prop where
  /-- The actor did not run. -/
  stopped : world.running.find? id = none
  /-- Now it does, -/
  found : after.running.find? id = some new
  /-- and its pass is over. -/
  idle : new.activity = .idle
  /-- Its behavior was loaded from its record. -/
  loaded : Behavior.load new.config.behavior world.config = .ok new.behavior
  /-- The store changes by writes and protection. -/
  store : world.store.Since after.store
  /-- The actor is not stopped. -/
  continues : world.Continues id after
  /-- The start pass is run, with what the behavior remembers at first. -/
  passes : ∃ (begun last : World) (busy done : Running), world.store.Since begun.store ∧
    begun.running.find? id = some busy ∧ busy.activity ≠ .idle ∧
    busy.memory = new.behavior.initialMemory ∧
    engine.runPass id (new.behavior.start ⟨id, new.config⟩ new.behavior.initialMemory) begun =
      .ok () last ∧
    last.running.find? id = some done ∧ done.memory = new.memory ∧ last.store = after.store
  /-- What is remembered is what the pass alone comes to. -/
  yields : ∃ log, (new.behavior.start ⟨id, new.config⟩ new.behavior.initialMemory).Yields
    new.behavior.initialMemory log () new.memory

/-- An actor is started, or nothing is done. -/
lemma Started.begins (stable : Stable id P) (minds : engine.Minds id P)
    (started : engine.Started id world after) :
    after = world ∨ ∃ new, engine.Begins id world after new := by
  cases started with
  | still => exact .inl rfl
  | @started config behavior last stopped record loaded passed =>
    let begun := (world.enlist id config behavior).turnTo id .starting
    have found := enlist_found world id config behavior
    have entered : world.store.Since begun.store := by
      rw [show begun.store = _ from updateRunning_store _ _ _]
      exact .of_eq rfl rfl rfl fun _ mem => mem
    have noted : world.Continues id begun := .of_note (updateRunning_journal _ _ _) rfl
    obtain ⟨log, mid, during, starts⟩ := runPass_yields stable minds found (by simp) passed
    have store : ((last.turnTo id .idle).schedule id).store = last.store := updateRunning_store _ _ _
    refine .inr ⟨{ mid with activity := .idle }, ?_⟩
    obtain ⟨config', behavior', memory, subscription, activity, cursor⟩ := mid
    obtain ⟨rfl, rfl⟩ : config' = config ∧ behavior' = behavior :=
      ⟨during.kept.config, during.kept.behavior⟩
    exact ⟨stopped, turnTo_found .idle during.found, rfl, loaded, store ▸ entered.trans during.store,
      (noted.trans during.continues).trans (.of_eq (updateRunning_journal last id _)),
      ⟨begun, last, _, _, entered, found, by simp, rfl, passed, during.found, rfl, store.symm⟩,
      log, starts⟩

end Engine

/-! ## Properties that an actor's own turns keep -/

/-- A property of an actor that is kept while the actor is left alone, and by its own start and
turns, if what happens meanwhile keeps it. -/
structure World.Maintained (actor : Id) (P : World → Prop) : Prop where
  /-- While the actor is left alone. -/
  stable : Stable actor P
  /-- By its start. -/
  starts : ∀ {engine : Engine} {world after : World},
    engine.Minds actor P → engine.Started actor world after →
    P world → P after
  /-- By its turns. -/
  serves : ∀ {engine : Engine} {world after : World} {answer : Option Bool},
    engine.Minds actor P → engine.Served actor world answer after →
    P world → P after

namespace Engine

open World

variable {engine : Engine} {actor id : Id} {P : World → Prop} {world after : World}

/-- A turn of any actor keeps the property. -/
lemma Served.spares {answer : Option Bool} (maintained : Maintained actor P)
    (minds : engine.Minds actor P)
    (served : engine.Served id world answer after) : Spares actor P world after := by
  have stable := maintained.stable
  by_cases own : id = actor
  · subst own
    cases found : world.running.find? id with
    | none => exact served.eq_of_stopped found ▸ (Spares.frame stable).refl _
    | some running =>
      -- by its own turn what it remembers may change, and the property is kept by assumption
      obtain ⟨new, during, alters⟩ := served.during stable minds found
      refine ⟨during.store, during.continues, fun old there => ?_, maintained.serves minds served⟩
      obtain rfl := Option.some.inj (found.symm.trans there)
      exact ⟨new, during.found, during.kept, alters.of_busy⟩
  · cases served with
    | still => exact (Spares.frame stable).refl _
    | passed found idle => exact (pick_apart own _ _ _).spares stable
    | @handled running inbox position message entry rerender last found idle read picked validated =>
      have begun := (pick_apart own world running (Inbox.entries inbox)).trans
        (turnTo_apart own _ (.handling (Inbox.entries inbox).length))
      exact ((begun.spares stable).trans (Validated.spares stable minds own validated)).trans
        ((last.afterTurn_apart id message _ own).spares stable)

/-- The start of any actor keeps the property. -/
lemma Started.spares (maintained : Maintained actor P)
    (minds : engine.Minds actor P)
    (started : engine.Started id world after) : Spares actor P world after := by
  have stable := maintained.stable
  have frame := Spares.frame stable
  by_cases own : id = actor
  · subst own
    rcases started.begins stable minds with rfl | ⟨new, begins⟩
    · exact frame.refl _
    · refine ⟨begins.store, begins.continues, fun old found => ?_, maintained.starts minds started⟩
      rw [begins.stopped] at found
      cases found
  · cases started with
    | still => exact frame.refl _
    | @started config behavior last stopped record loaded passed =>
      have entered := (enlist_apart own world config behavior).trans
        (turnTo_apart own _ .starting)
      have remember : ∀ world memory, Spares actor P world (world.remember id memory) :=
        fun world memory => (remember_apart own world memory).spares stable
      have passes := (runPass_keeps frame minds remember _ _).ok passed
      have ended := (turnTo_apart own last .idle).trans ((schedule_storeFrame _ id).apart actor)
      exact ((entered.spares stable).trans passes).trans (ended.spares stable)

end Engine

open World

/-- However deep calls nest, they keep a property of an actor that the actor's own start and turns
keep. -/
theorem engine_spares {actor : Id} {P : World → Prop} (maintained : Maintained actor P)
    (depth : Nat) : (engine depth).Minds actor P ∧
    ∀ id world, Run.Minds actor P ((engine depth).spawn id) world := by
  have regime := Spares.regime maintained.stable
  have posts : ∀ (world : World) target message,
      Spares actor P world (world.post target message).2 := fun world target message =>
    ((world.post_storeFrame target message).apart actor).spares maintained.stable
  induction depth with
  | zero =>
    have starts : ∀ id world,
        Run.Minds actor P ((engine 0).spawn id) world :=
      fun _ _ => trivial
    exact ⟨⟨fun target message world _ =>
      Engine.post_keeps regime.toFrame (posts world target message) (starts target),
      fun _ => trivial, fun _ _ => trivial⟩, starts⟩
  | succ depth ih =>
    have starts : ∀ id world,
        Run.Minds actor P ((engine (depth + 1)).spawn id) world := by
      refine fun id world => Run.minds_of_ok fun result after ran => ?_
      change Engine.spawnAt (depth + 1) id world = _ at ran
      rw [Engine.spawnAt] at ran
      exact (Engine.spawnWith_started ran).spares maintained ih.1
    refine ⟨⟨fun target message world _ =>
      Engine.post_keeps regime.toFrame (posts world target message) (starts target),
      fun world => ?_, fun _ _ => trivial⟩, starts⟩
    change Run.Keeps _ _ (Engine.pumpAt (depth + 1)) world
    rw [Engine.pumpAt]
    exact Engine.pumpWith_keeps regime ih.1 (fun id world => Run.minds_of_ok fun answer after ran =>
      (Engine.handleNext_served ran).spares maintained ih.1) (depth + 1) world

/-! ## Commands -/

lemma Run.modify_ok {change : World → World} {world after : World}
    (ran : (modify change : Run Unit) world = .ok () after) : after = change world := by
  cases ran
  rfl

namespace World

variable {before after world : World} {actor : Id} {P : World → Prop}

/-- An actor does not run any more, and that is noted. -/
structure Loses (before : World) (actor : Id) (after : World) : Prop where
  /-- It does not run. -/
  stopped : after.running.find? actor = none
  /-- That is noted. -/
  journal : ∃ notes, after.journal = notes ++ before.journal ∧ ∃ note ∈ notes, note.ends actor = true

lemma Loses.suffix (loses : before.Loses actor after) : before.journal <:+ after.journal := by
  obtain ⟨-, notes, eq, -⟩ := loses
  exact eq ▸ List.suffix_append _ _

/-- An actor that does not run any more has not gone on running. -/
lemma Loses.not_continues {first : World} (loses : before.Loses actor after)
    (earlier : first.journal <:+ before.journal) : ¬ first.Continues actor after := by
  rintro ⟨notes, eq, all⟩
  obtain ⟨-, later, eq', note, mem, ending⟩ := loses
  obtain ⟨early, eq''⟩ := earlier
  have split : notes = later ++ early := by
    rw [eq', ← eq'', ← List.append_assoc] at eq
    exact (List.append_cancel_right eq).symm
  rw [all note (split ▸ List.mem_append_left _ mem)] at ending
  cases ending

lemma dismiss_loses (world : World) (actor : Id) (running : Running) :
    world.Loses actor (world.dismiss actor running) := by
  refine ⟨(Table.find?_erase _ _ _).trans (if_pos rfl),
    _ ++ [.stopped actor], by rw [List.append_assoc]; rfl, .stopped actor, ?_, beq_self_eq_true actor⟩
  exact List.mem_append_right _ (List.mem_singleton_self _)

lemma restore?_loses {config : Config} (restored : world.restore? config = some after) :
    world.Loses actor after := by
  obtain ⟨store, -, rfl⟩ := restore?_some restored
  exact ⟨rfl, [.restored], rfl, .restored, List.mem_singleton_self _, rfl⟩

section Keeps

variable (maintained : Maintained actor P) (fuel : Nat)

include maintained

omit fuel in
lemma custom : Custom (Spares actor P) fun _ _ => True where
  toRegime := Spares.regime maintained.stable
  stored _ store running journal := Apart.spares maintained.stable
    ⟨store, .of_eq journal, by rw [running]⟩
  makeInbox world := (world.makeInbox_storeFrame.apart actor).spares maintained.stable
  timeOut world now := (world.timeOut_apart now actor).spares maintained.stable

omit fuel in
/-- Stopping an actor ends it, and leaves every other one alone. -/
lemma stop_spares_or_loses {id : Id} {did : Bool} (ran : stop id world = .ok did after) :
    Spares actor P world after ∨ world.Loses actor after := by
  have frame := Spares.frame maintained.stable
  rw [stop, Run.get_bind] at ran
  cases found : world.running.find? id with
  | none =>
    rw [found] at ran
    cases ran
    exact .inl (frame.refl _)
  | some running =>
    rw [found] at ran
    dsimp only at ran
    by_cases idle : running.activity = .idle
    · rw [if_neg (not_not.2 idle)] at ran
      cases ran
      by_cases own : id = actor
      · exact .inr (own ▸ world.dismiss_loses id running)
      · exact .inl ((dismiss_apart own running).spares maintained.stable)
    · rw [if_pos idle] at ran
      cases ran

/-- A command keeps the property, or it ends the actor. -/
theorem run_spares_or_loses (command : Command) (ran : command.run fuel world = .ok () after) :
    Spares actor P world after ∨ world.Loses actor after := by
  obtain ⟨keeps, starts⟩ := engine_spares maintained fuel
  have mild (mild : command.Mild) : Spares actor P world after :=
    (command.run_keeps (custom maintained) keeps starts mild world).ok ran
  cases command with
  | stop id =>
    obtain ⟨did, middle, stopped, returned⟩ := Run.ok_of_bind ran
    cases returned
    exact stop_spares_or_loses maintained stopped
  | restart config =>
    rw [Run.modify_ok ran]
    unfold World.restart
    cases restored : world.restore? config with
    | none => exact .inl ((Spares.frame maintained.stable).refl world)
    | some after => exact .inr (restore?_loses restored)
  | _ => exact .inl (mild trivial)

end Keeps

end World

open World

/-! ## Quiet states -/

namespace Quiet

variable {first world : World} {actor : Id} {P : World → Prop}

/-- From one quiet state to the next, a property is kept that an actor's own turns keep, or the
actor is stopped. -/
theorem along (quiet : Quiet first world) (maintained : Maintained actor P)
    {motive : World → Prop} (begins : motive first)
    (spares : ∀ before after, Quiet first before → (∀ start, Quiet start before → Quiet start after) →
      Spares actor P before after → motive before → motive after)
    (loses : ∀ before after, before.Loses actor after → motive before → motive after) :
    motive world := by
  have frame := Spares.frame maintained.stable
  have apart : ∀ before after, Quiet first before → (∀ start, Quiet start before → Quiet start after) →
      before.Apart actor after → motive before → motive after :=
    fun before after early goesOn apart => spares before after early goesOn
      (apart.spares maintained.stable)
  -- every way from one quiet state to the next spares the actor, but for a command that ends it
  induction quiet with
  | first => exact begins
  | @returned before after fuel command early ran ih =>
    rcases run_spares_or_loses maintained fuel command ran with kept | lost
    · exact spares _ _ early (fun start quiet => .returned fuel command quiet ran) kept ih
    · exact loses _ _ lost ih
  | pumping pumping early ih =>
    exact apart _ _ early (fun start quiet => .pumping pumping quiet) (.of_eq rfl rfl (.of_eq rfl)) ih
  | @served before after ready id rerender depth early next ran ih =>
    have popped : before.Apart actor { before with ready } := .of_eq rfl rfl (.of_eq rfl)
    have served := (Engine.handleNext_served ran).spares maintained (engine_spares maintained depth).1
    exact spares _ _ early (fun start quiet => .served depth quiet next ran)
      ((popped.spares maintained.stable).trans served) ih
  | rendering rerenders early ih =>
    exact apart _ _ early (fun start quiet => .rendering rerenders quiet)
      (.of_eq rfl rfl (.of_eq rfl)) ih
  | ran depth script early ran ih =>
    exact spares _ _ early (fun start quiet => .ran depth script quiet ran)
      ((Engine.runScript_keeps frame (engine_spares maintained depth).1 script _).ok ran) ih
  | expiring now early ih =>
    exact apart _ _ early (fun start quiet => .expiring now quiet) (timeOut_apart _ now actor) ih
  | told fuel early timedOut runs told ih =>
    exact spares _ _ early (fun start quiet => .told fuel quiet timedOut runs told)
      ((expireOne_keeps (custom maintained) (engine_spares maintained fuel).1 _ _ _ _).ok told) ih

/-- A property holds as long as the actor goes on running that its own turns keep. -/
theorem maintains (quiet : Quiet first world) (maintained : Maintained actor P) (holds : P first)
    (continues : first.Continues actor world) : P world := by
  -- the journal only grows, so an actor that was ended on the way has not gone on since the first
  -- state
  have along := quiet.along maintained
    (motive := fun world => first.journal <:+ world.journal ∧ (first.Continues actor world → P world))
    ⟨List.suffix_refl _, fun _ => holds⟩
    (fun before after _ _ spares ih => ⟨ih.1.trans spares.continues.suffix, fun all =>
      spares.keeps (ih.2 (all.of_suffix ih.1 spares.continues.suffix))⟩)
    (fun before after loses ih => ⟨ih.1.trans loses.suffix, fun all =>
      absurd all (loses.not_continues ih.1)⟩)
  exact along.2 continues

end Quiet

/-- A state from which an actor was started: there it does not run, and it has not been stopped
since. -/
structure World.Outset (outset : World) (actor : Id) (world : World) : Prop where
  /-- No pass was under way, and none is now. -/
  quiet : Quiet outset world
  /-- The actor did not run. -/
  stopped : outset.running.find? actor = none
  /-- It has not been stopped. -/
  continues : outset.Continues actor world

/-- Every actor that runs was started. -/
theorem Quiet.exists_outset {first world : World} {actor : Id} (quiet : Quiet first world)
    (stopped : first.running.find? actor = none) {running : Running}
    (found : world.running.find? actor = some running) :
    ∃ outset, Quiet first outset ∧ outset.Outset actor world := by
  have trivially : Maintained actor fun _ => True :=
    ⟨fun _ _ _ _ => trivial, fun _ _ _ => trivial, fun _ _ _ => trivial⟩
  refine quiet.along trivially
    (motive := fun world => ∀ running, world.running.find? actor = some running →
      ∃ outset, Quiet first outset ∧ outset.Outset actor world) ?_ ?_ ?_ running found
  · intro running found
    rw [stopped] at found
    cases found
  · intro before after early goesOn spares ih running found
    cases started : before.running.find? actor with
    -- it was started in this very step
    | none => exact ⟨before, early, goesOn _ .first, started, spares.continues⟩
    | some old =>
      obtain ⟨outset, early, outsets⟩ := ih old started
      exact ⟨outset, early, goesOn _ outsets.quiet, outsets.stopped,
        outsets.continues.trans spares.continues⟩
  · intro before after loses _ running found
    rw [loses.stopped] at found
    cases found

end Troupe
