import Troupe.Proofs.Behavior.Interruption
import Troupe.Proofs.World.Apart
import Troupe.Proofs.World.Runs

/-!
# Actors whose turns are broken off

While an actor is busy, whatever happens elsewhere leaves alone what is known of it, even if it
breaks off: only the actor's own pass changes what its behavior remembers.  So what a pass has
remembered up to where a tool breaks it off is what the actor goes on with.

## Main results

* `engine_spares_busy`: an engine leaves busy actors alone, whether its calls return or halt;
* `Engine.runPass_shows`: what an actor remembers when its pass has returned, or has been broken
  off;
* `machine_turn_broken_off`: what becomes of a machine when a tool breaks off its turn.
-/

namespace Troupe

namespace World

variable {before middle after world : World} {actor id : Id}

/-- What is known of an actor stays as it is, if the actor is busy. -/
def SparesBusy (actor : Id) (before after : World) : Prop :=
  ∀ running, before.running.find? actor = some running → running.activity ≠ .idle →
    after.running.find? actor = some running

namespace SparesBusy

lemma of_find (same : after.running.find? actor = before.running.find? actor) :
    SparesBusy actor before after :=
  fun _ found _ => same.trans found

lemma of_apart (apart : before.Apart actor after) : SparesBusy actor before after :=
  of_find apart.running

/-- An actor that is not busy need not be spared. -/
lemma of_idle (idle : ∀ running, before.running.find? actor = some running →
    running.activity = .idle) : SparesBusy actor before after :=
  fun running found busy => absurd (idle running found) busy

lemma reaches_of_idle {α : Type} (idle : ∀ running, before.running.find? actor = some running →
    running.activity = .idle) (result : EStateM.Result Halt World α) :
    before.Reaches (SparesBusy actor) (SparesBusy actor) result := by
  cases result <;> exact of_idle idle

protected lemma refl (world : World) : SparesBusy actor world world := of_find rfl

protected lemma trans (first : SparesBusy actor before middle)
    (second : SparesBusy actor middle after) : SparesBusy actor before after :=
  fun running found busy => second running (first running found busy) busy

lemma regime : Regime (SparesBusy actor) (SparesBusy actor) where
  refl := .refl
  trans := .trans
  halts := .trans
  halt := .refl
  write world op := of_apart ((world.write_storeFrame op).apart actor)
  tools world tools := of_apart (world.tools_apart tools actor)
  ask world asker target event := of_apart (world.registerAsk_apart asker target event actor)
  aside _ _ running _ := of_find (by rw [running])
  unpump spares := spares

end SparesBusy

end World

open World

/-- A computation leaves a busy actor alone, whether it returns or halts. -/
abbrev Run.SparesBusy {α : Type} (actor : Id) (run : Run α) (world : World) : Prop :=
  Run.Keeps (World.SparesBusy actor) (World.SparesBusy actor) run world

namespace Engine

variable {α : Type} {engine : Engine} {actor id message : Id} {running : Running} {entry : Entry}

/-- An engine leaves a busy actor alone in what it does for passes and tools. -/
abbrev SparesBusy (engine : Engine) (actor : Id) : Prop :=
  engine.Keeps (World.SparesBusy actor) (World.SparesBusy actor)

section Others

variable (spares : engine.SparesBusy actor) (ne : id ≠ actor)

include spares ne

lemma runPass_sparesBusy (pass : Pass α) (world : World) :
    Run.SparesBusy actor (engine.runPass id pass) world :=
  runPass_keeps SparesBusy.regime.toFrame spares
    (fun world memory => .of_apart (remember_apart ne world memory)) pass world

lemma dispatch_sparesBusy (payload : Json) (world : World) :
    Run.SparesBusy actor (engine.dispatch id running message entry payload) world := by
  have frame :=
    (SparesBusy.regime : Regime (World.SparesBusy actor) (World.SparesBusy actor)).toFrame
  refine .get ?_
  dsimp only
  split
  · exact .bind frame (applyMutation_keeps frame spares _ _ _ world) fun _ _ _ => .pure frame _ _
  · refine .bind frame (.modifyGet (.of_apart (world.acceptReply_apart id message entry actor)))
      fun accepted middle _ => ?_
    split
    · exact .bind frame (runPass_sparesBusy spares ne _ middle) fun _ _ _ => .pure frame _ _
    · exact .pure frame _ _

lemma handleEntry_sparesBusy (world : World) :
    Run.SparesBusy actor (engine.handleEntry id running message entry) world := by
  have frame :=
    (SparesBusy.regime : Regime (World.SparesBusy actor) (World.SparesBusy actor)).toFrame
  have marks : ∀ (rerender : Bool) (world : World), Run.SparesBusy actor (do
      modify fun world => world.mark message
      return rerender : Run Bool) world := fun rerender world =>
    .bind frame (.modify (.of_apart ((world.mark_storeFrame message).apart actor)))
      fun _ _ _ => .pure frame _ _
  refine .get ?_
  dsimp only
  split
  · exact marks false world
  · exact .bind frame (dispatch_sparesBusy spares ne _ world) fun rerender middle _ =>
      marks rerender middle

end Others

/-- The turn of any actor leaves a busy one alone. -/
lemma handleNext_sparesBusy (spares : engine.SparesBusy actor) (id : Id) (world : World) :
    Run.SparesBusy actor (engine.handleNext id) world := by
  have turn := engine.handleNext_turn id world
  rw [Run.SparesBusy, Run.Keeps]
  by_cases own : id = actor
  -- if the actor itself is busy, its turn ends at once
  · subst own
    generalize engine.handleNext id world = result at turn ⊢
    cases turn with
    | stopped | unread | busy => exact .refl world
    | passed found idle | handled found idle | halted found idle =>
      refine World.SparesBusy.reaches_of_idle (fun old there => ?_) _
      cases Option.some.inj (found.symm.trans there)
      exact idle
  · -- the start of the turn of another changes nothing about it
    have begun : ∀ running listed, world.SparesBusy actor
        ((world.pick id running listed).2.turnTo id (.handling listed.length)) := by
      intro running listed
      exact .of_apart ((pick_apart own world running listed).trans (turnTo_apart own _ _))
    generalize engine.handleNext id world = result at turn ⊢
    cases turn with
    | stopped | unread | busy => exact .refl world
    | passed => exact .of_apart (pick_apart own world _ _)
    | @handled running inbox position message entry rerender last found idle read picked handled =>
      have entries := (handleEntry_sparesBusy spares own _).ok handled
      have idled := ((begun running _).trans entries).trans (.of_apart (turnTo_apart own last .idle))
      split
      · exact idled.trans (.of_apart ((schedule_storeFrame _ id).apart actor))
      · exact idled
    | @halted running inbox position message entry halt last found idle read picked halted =>
      have entries := (handleEntry_sparesBusy spares own _).error halted
      exact ((begun running _).trans entries).trans (.of_apart (turnTo_apart own last .idle))

/-- So does the start of any actor. -/
lemma spawnWith_sparesBusy (spares : engine.SparesBusy actor) (id : Id) (world : World) :
    Run.SparesBusy actor (engine.spawnWith id) world := by
  have startup := engine.spawnWith_startup id world
  rw [Run.SparesBusy, Run.Keeps]
  by_cases own : id = actor
  -- an actor that does not run is not busy
  · subst own
    generalize engine.spawnWith id world = result at startup ⊢
    cases startup with
    | running | unrecorded | unloaded => exact .refl world
    | passed stopped | halted stopped =>
      refine World.SparesBusy.reaches_of_idle (fun old there => ?_) _
      cases (Table.find?_of_not_contains stopped).symm.trans there
  · have begun : ∀ config behavior, world.SparesBusy actor
        ((world.enlist id config behavior).turnTo id .starting) := fun config behavior =>
      .of_apart ((enlist_apart own world config behavior).trans (turnTo_apart own _ .starting))
    generalize engine.spawnWith id world = result at startup ⊢
    cases startup with
    | running | unrecorded | unloaded => exact .refl world
    | @passed config behavior last stopped record loaded passed =>
      have passes := (runPass_sparesBusy spares own _ _).ok passed
      have idled := ((begun config behavior).trans passes).trans
        (.of_apart (turnTo_apart own last .idle))
      exact idled.trans (.of_apart ((schedule_storeFrame _ id).apart actor))
    | @halted config behavior halt last stopped record loaded halted =>
      have passes := (runPass_sparesBusy spares own _ _).error halted
      exact ((begun config behavior).trans passes).trans (.of_apart (turnTo_apart own last .idle))

end Engine

/-- However deep calls nest, and whether they return or halt, a busy actor is left alone. -/
theorem engine_spares_busy (actor : Id) (depth : Nat) : (engine depth).SparesBusy actor ∧
    ∀ id world, Run.SparesBusy actor ((engine depth).spawn id) world := by
  have regime : Regime (SparesBusy actor) (SparesBusy actor) := SparesBusy.regime
  have posts : ∀ (world : World) target message,
      SparesBusy actor world (world.post target message).2 := fun world target message =>
    .of_apart ((world.post_storeFrame target message).apart actor)
  induction depth with
  | zero =>
    have starts : ∀ id world, Run.SparesBusy actor ((engine 0).spawn id) world :=
      fun id world => .refl world
    exact ⟨⟨fun target message world _ =>
      Engine.post_keeps regime.toFrame (posts world target message) (starts target),
      fun world => .refl world, fun _ _ => trivial⟩, starts⟩
  | succ depth ih =>
    have starts : ∀ id world, Run.SparesBusy actor ((engine (depth + 1)).spawn id) world := by
      intro id world
      change Run.SparesBusy actor (Engine.spawnAt (depth + 1) id) world
      rw [Engine.spawnAt]
      exact Engine.spawnWith_sparesBusy ih.1 id world
    refine ⟨⟨fun target message world _ =>
      Engine.post_keeps regime.toFrame (posts world target message) (starts target),
      fun world => ?_, fun _ _ => trivial⟩, starts⟩
    change Run.Keeps _ _ (Engine.pumpAt (depth + 1)) world
    rw [Engine.pumpAt]
    exact Engine.pumpWith_keeps regime ih.1 (Engine.handleNext_sparesBusy ih.1) (depth + 1) world

/-! ## Passes -/

/-- What an actor remembers where its pass has ended, or where it has been broken off. -/
def World.ShowsAt {α : Type} (actor : Id) (running : Running) (P : Memory → Prop)
    (Q : α → Memory → Prop) : EStateM.Result Halt World α → Prop
  | .ok result after =>
    ∃ memory, after.running.find? actor = some { running with memory } ∧ Q result memory
  | .error _ after =>
    ∃ memory, after.running.find? actor = some { running with memory } ∧ P memory

namespace Engine

variable {α β : Type} {engine : Engine} {actor : Id} {running : Running} {world after : World}
variable {P : Memory → Prop} {Q : α → Memory → Prop}

/-- A call that spares a busy actor, and goes on with something. -/
lemma showsAt_call {call : Run β} {next : β → Run α} (spares : Run.SparesBusy actor call world)
    (found : world.running.find? actor = some running) (busy : running.activity ≠ .idle)
    (before : P running.memory)
    (goesOn : ∀ answer middle, middle.running.find? actor = some running →
      ShowsAt actor running P Q (next answer middle)) :
    ShowsAt actor running P Q ((call >>= next) world) := by
  cases called : call world with
  | ok answer middle =>
    rw [Run.bind_of_ok called]
    exact goesOn answer middle (spares.ok called running found busy)
  | error halt middle =>
    rw [Run.bind_of_error called]
    exact ⟨running.memory, spares.error called running found busy, before⟩

/-- An actor that is busy with a pass shows what the pass shows, at its end or where it is broken
off. -/
theorem runPass_shows (spares : engine.SparesBusy actor) {pass : Pass α}
    (found : world.running.find? actor = some running) (busy : running.activity ≠ .idle)
    (shows_ : pass.Shows P Q running.memory) :
    ShowsAt actor running P Q (engine.runPass actor pass world) := by
  have frame := (SparesBusy.regime : Regime (World.SparesBusy actor)
    (World.SparesBusy actor)).toFrame
  induction pass generalizing world running with
  | done result => exact ⟨running.memory, found, shows_⟩
  | read id next ih => exact ih _ found busy (shows_ _)
  | interfaceOf target next ih => exact ih _ found busy (shows_ _)
  | execute op next ih => exact ih _ (frame.write world op running found busy) busy (shows_ _)
  | registerAsk asker target event next ih =>
    exact ih _ (frame.ask world asker target event running found busy) busy (shows_ _)
  | callTool name view payload next ih =>
    exact showsAt_call (callTool_keeps frame spares name view payload world) found busy shows_.1
      fun answer middle found => ih answer found busy (shows_.2 answer)
  | deliver target message next ih =>
    exact showsAt_call (spares.post target message world trivial) found busy shows_.1
      fun answer middle found => ih _ found busy (shows_.2 _)
  | invoke target payload next ih =>
    exact showsAt_call (invoke_keeps frame spares target payload world) found busy shows_.1
      fun answer middle found => ih answer found busy (shows_.2 answer)
  | remember memory next ih =>
    have rest := ih (remember_found memory found) busy shows_
    exact rest

/-- The end of a pass is not broken off: it writes to the store, and tells no one but the actor. -/
lemma finish_returns {occasion : Occasion} (runs : world.running.contains occasion.actor.id)
    (activation : Activation) : ∃ after,
      engine.runPass occasion.actor.id (occasion.finish activation) world = .ok () after := by
  obtain ⟨⟨⟩, after, ran, -⟩ :=
    runPass_storeFrames engine (occasion.finish_writesOrTells activation)
      fun target self => self ▸ runs
  exact ⟨after, ran⟩

end Engine

/-! ## Turns -/

namespace Engine

variable {engine : Engine} {actor message : Id} {running : Running} {entry : Entry}
variable {world after : World} {halt : Halt}

/-- If the turn of an actor is broken off, it is while the actor handles an entry. -/
lemma handleNext_brokenOff (found : world.running.find? actor = some running)
    (panicked : engine.handleNext actor world = .error .panic after) :
    ∃ position message entry last,
      (world.lookFor running (Inbox.listed world.store running.config.inbox)).next =
        some (position, message, entry) ∧
      engine.handleEntry actor running message entry
        ((world.pick actor running (Inbox.listed world.store running.config.inbox)).2.turnTo actor
          (.handling (Inbox.listed world.store running.config.inbox).length)) =
        .error .panic last ∧ after = last.turnTo actor .idle := by
  have turn := engine.handleNext_turn actor world
  rw [panicked] at turn
  cases turn with
  | halted there idle read picked halted =>
    cases Option.some.inj (found.symm.trans there)
    rw [Inbox.listed_of_read read]
    exact ⟨_, _, _, _, by rw [← pick_fst, picked], halted, rfl⟩

/-- If the handling of an entry is halted, the entry is valid, and it is halted while a mutation is
applied or an event is handled. -/
lemma handleEntry_halted
    (halted : engine.handleEntry actor running message entry world = .error halt after) :
    ∃ payload, Inbox.validate world.schemas world.config.mutationEvent ⟨actor, running.config⟩
        message entry.type entry.payload = .valid payload ∧
      if entry.type = world.config.mutationEvent then
        engine.applyMutation actor entry payload world = .error halt after
      else engine.runPass actor (running.behavior.send ⟨actor, running.config⟩ running.memory
          ⟨entry.type, payload, entry.source, entry.correlation⟩)
        (world.acceptReply actor message entry).2 = .error halt after := by
  rw [handleEntry, Run.get_bind] at halted
  dsimp only at halted
  cases verdict : Inbox.validate world.schemas world.config.mutationEvent ⟨actor, running.config⟩
      message entry.type entry.payload with
  | invalid errors =>
    rw [verdict] at halted
    cases halted
  | valid payload =>
    rw [verdict] at halted
    refine ⟨payload, rfl, ?_⟩
    rcases Run.error_of_bind halted with dispatched | ⟨_, _, -, marked⟩
    · rw [dispatch, Run.get_bind] at dispatched
      split at dispatched
      · rename_i event
        rw [if_pos event]
        rcases Run.error_of_bind dispatched with applied | ⟨_, _, -, done⟩
        · exact applied
        · cases done
      · rename_i event
        rw [if_neg event]
        rw [Run.modifyGet_bind] at dispatched
        split at dispatched
        · rcases Run.error_of_bind dispatched with passed | ⟨_, _, -, done⟩
          · exact passed
          · cases done
        · cases dispatched
    · cases marked

/-- If the pass of a machine is halted, a transition is broken off. -/
lemma send_halted {definition : MachineDefinition} {limit : Nat} {suppressed : List String}
    {config : ActorConfig} {event : Event} (spares : engine.SparesBusy actor)
    (found : world.running.find? actor = some running) (busy : running.activity ≠ .idle)
    (halted : engine.runPass actor ((Behavior.machine definition limit suppressed).send
      ⟨actor, config⟩ running.memory event) world = .error halt after) :
    ∃ memory source candidate, after.running.find? actor = some { running with memory } ∧
      running.memory.state = some source ∧
      (Behavior.machine definition limit suppressed).transition? running.memory event
        (world.store.read config.context) = some candidate ∧
      Machine.Torn limit event running.memory source candidate memory := by
  rw [Behavior.send, runPass_then] at halted
  rcases Machine.work_shows definition limit suppressed ⟨actor, config⟩ event running.memory with
    none | ⟨next, begins, shows_⟩
  · rw [Behavior.work, none] at halted
    cases halted
  · have worked := runPass_shows spares found busy (shows_ (world.store.read config.context))
    have reads : engine.runPass actor (Machine.work definition limit suppressed ⟨actor, config⟩
        running.memory event) world =
          engine.runPass actor (next (world.store.read config.context)) world := by
      rw [begins]
      rfl
    rw [← reads] at worked
    rw [Behavior.work] at halted
    rcases Run.error_of_bind halted with broken | ⟨outcome, middle, ran, ended⟩
    · rw [broken] at worked
      obtain ⟨memory, there, source, candidate, current, taken, torn⟩ := worked
      exact ⟨memory, source, candidate, there, current, taken, torn⟩
    -- when the work has been done, nothing is left that could break off
    · rw [ran] at worked
      obtain ⟨memory, there, -⟩ := worked
      have runs : middle.running.contains actor := Table.contains_iff.2 ⟨_, there⟩
      cases outcome with
      | none => cases ended
      | some outcome =>
        rw [Behavior.conclude, runPass_then] at ended
        let occasion : Occasion :=
          ⟨⟨actor, config⟩, (Behavior.machine definition limit suppressed).named, event⟩
        obtain ⟨last, finished⟩ : ∃ last, engine.runPass actor (occasion.finish outcome.1) middle =
            .ok () last := finish_returns runs outcome.1
        rw [Run.bind_of_ok finished] at ended
        cases ended

end Engine

/-- **What a panic leaves of a machine.**  A tool breaks off the turn of a machine.  If that happens
while a mutation is applied, the machine remembers what it did before.  Otherwise it has taken a
transition for the event, over the context as it was stored, and it goes on in the new state; what
it remembers of its transitions has this one at its end if the transition's own actions had come to
theirs, and is as before if not.  The pass has not written the context.  So if the context named the
state before, and nothing else has written it, it names the state that the machine is in only if the
transition leads back to where it began. -/
theorem machine_turn_broken_off {depth : Nat} {world after : World} {ready : ReadyQueue}
    {actor : Id} {running : Running} {definition : MachineDefinition} {limit : Nat}
    {suppressed : List String}
    (next : world.ready.pop? = some (actor, ready))
    (found : world.running.find? actor = some running)
    (machine : running.behavior = .machine definition limit suppressed)
    (panicked : (engine depth).handleNext actor { world with ready } = .error .panic after) :
    ∃ position message entry new,
      (world.lookFor running (Inbox.listed world.store running.config.inbox)).next =
        some (position, message, entry) ∧
      after.running.find? actor = some new ∧
      (entry.type = world.config.mutationEvent → new.memory = running.memory) ∧
      (entry.type ≠ world.config.mutationEvent → ∃ source payload candidate,
        running.memory.state = some source ∧
        running.behavior.transition? running.memory
          ⟨entry.type, payload, entry.source, entry.correlation⟩
          (world.store.read running.config.context) = some candidate ∧
        new.memory.state = some candidate.target ∧
        (new.memory.history = running.memory.history ∨
          new.memory.history = Machine.lastTransitions limit
            (running.memory.history ++ [⟨source, candidate.target, entry.type⟩])) ∧
        (Machine.persistedState? definition (world.store.read running.config.context) =
            some source →
          after.store.writeCount running.config.context =
            world.store.writeCount running.config.context →
          (new.memory.state =
              Machine.persistedState? definition (after.store.read running.config.context) ↔
            candidate.target = source))) := by
  obtain ⟨stepsOrBreaks, -⟩ : StepsOrBreaks world after ∧ _ := by
    have ends := Engine.handleNext_bySteps (engine_bySteps depth) next
    rwa [panicked] at ends
  have queued : ({ world with ready } : World).running.find? actor = some running := found
  obtain ⟨position, message, entry, last, picked, halted, rfl⟩ :=
    Engine.handleNext_brokenOff queued panicked
  obtain ⟨payload, -, halted⟩ := Engine.handleEntry_halted halted
  -- the state in which the actor is busy with the entry
  let listed := Inbox.listed world.store running.config.inbox
  let looked := World.pick { world with ready } actor running listed
  let begun := looked.2.turnTo actor (.handling listed.length)
  let old : Running := { running with
    cursor := (World.lookFor { world with ready } running listed).cursor
    activity := .handling listed.length }
  have moved : looked.2.running.find? actor = some { running with cursor := old.cursor } :=
    (find?_pick _ _ _ _ _).trans (by rw [if_pos rfl, queued]; rfl)
  have there : begun.running.find? actor = some old := turnTo_found _ moved
  have busy : old.activity ≠ .idle := by simp [old]
  have store : begun.store = world.store :=
    (updateRunning_store _ _ _).trans (pick_store _ _ _ _)
  have config : begun.config = world.config :=
    (updateRunning_config _ _ _).trans (by rw [pick_frame])
  have spares := (engine_spares_busy actor depth).1
  have shown : ∀ memory, last.running.find? actor = some { old with memory } →
      (last.turnTo actor .idle).running.find? actor =
        some { running with memory, cursor := old.cursor, activity := .idle } := fun memory found =>
    turnTo_found .idle found
  change if entry.type = begun.config.mutationEvent then _ else _ at halted
  rw [config] at halted
  by_cases mutation : entry.type = world.config.mutationEvent
  · rw [if_pos mutation] at halted
    have still := (Engine.applyMutation_keeps SparesBusy.regime.toFrame spares _ _ _ _).error halted
      old there busy
    exact ⟨position, message, entry, _, picked, shown running.memory still, fun _ => rfl,
      fun event => absurd mutation event⟩
  · rw [if_neg mutation, machine] at halted
    have accepted : (begun.acceptReply actor message entry).2.running.find? actor = some old :=
      (begun.acceptReply_apart actor message entry actor).running.trans there
    obtain ⟨memory, source, candidate, broken, current, taken, torn⟩ :=
      Engine.send_halted spares accepted busy halted
    rw [acceptReply_store, store] at taken
    refine ⟨position, message, entry, _, picked, shown memory broken,
      fun event => absurd event mutation, fun _ => ⟨source, payload, candidate, current,
        by rw [machine]; exact taken, ?_, ?_, fun agrees unwritten => ?_⟩⟩
    · rcases torn with rfl | rfl <;> rfl
    · rcases torn with rfl | rfl
      · exact .inl rfl
      · exact .inr rfl
    · have state : memory.state = some candidate.target := by rcases torn with rfl | rfl <;> rfl
      rw [stepsOrBreaks.grows.read_eq _ unwritten, agrees]
      dsimp only
      rw [state, Option.some.injEq]

namespace Sample

/-- A runtime with a machine that runs a tool when it leaves its first state, and is told to. -/
def latched : World :=
  World.new {} (Store.ofImage ⟨.ofNat, 10⟩ ⟨Table.ofList
    [(.ofNat 1, .obj [("entries", .arr [.id (.ofNat 4)])]), (.ofNat 2, .empty),
      (actor, (ActorConfig.toJson ⟨["GO"], .ofNat 1, .ofNat 2,
        .record [("kind", .str "machine"), ("initial", .str "shut"), ("states", .record
          [("shut", .record [("exit", .record [("function", .empty)]),
            ("on", .record [("GO", .str "open")])]), ("open", .empty)])],
        some "bang", ∅, Table.ofList [("GO", .bool true)]⟩)),
      (.ofNat 4, (Entry.pending actor { type := "GO", payload := .empty }).toJson)], ∅⟩)
    ⟨.ofNat, 0⟩ ⟨0, 1000⟩

/-- Whether the machine is in its first state, and its turn is broken off. -/
def sticks (world : World) : Bool :=
  match world.ready.pop? with
  | none => false
  | some (next, ready) => next == actor && ((engine 2).handleNext actor).panics
      (fun after => after.currentState? actor == some "open" && after.history actor == [] &&
        after.store.writeCount (.ofNat 2) == world.store.writeCount (.ofNat 2))
      { world with ready } &&
      (world.running.find? actor).any fun running => running.config.context == .ofNat 2 &&
        running.memory.state == some "shut" &&
        match running.behavior with
        | .machine definition _ _ => Machine.persistedState? definition
            (world.store.read (.ofNat 2)) == some "shut"
        | .process _ _ => false

end Sample

/-- A machine whose tool broke off when it left its first state goes on in the other one, which its
context does not name. -/
theorem machine_left_torn :
    ∃ world ready running after new definition limit suppressed,
      Session Sample.latched world ∧ world.ready.pop? = some (Sample.actor, ready) ∧
      world.running.find? Sample.actor = some running ∧
      running.behavior = .machine definition limit suppressed ∧
      (engine 2).handleNext Sample.actor { world with ready } = .error .panic after ∧
      Machine.persistedState? definition (world.store.read running.config.context) =
        running.memory.state ∧
      after.running.find? Sample.actor = some new ∧
      new.memory.state ≠
        Machine.persistedState? definition (after.store.read running.config.context) := by
  have begun : Session Sample.latched Sample.latched := .first
  obtain ⟨world, session, sticks⟩ := Session.exists_of_allReturn 2
    [.setTools (ToolRegistry.register {} Sample.bang), .start Sample.actor]
    Sample.sticks begun (by decide +kernel)
  unfold Sample.sticks at sticks
  cases next : world.ready.pop? with
  | none =>
    rw [next] at sticks
    cases sticks
  | some popped =>
    obtain ⟨first, ready⟩ := popped
    rw [next] at sticks
    simp only [Bool.and_eq_true, beq_iff_eq, Option.any_eq_true] at sticks
    obtain ⟨⟨rfl, panicked⟩, running, found, ⟨context, shut⟩, machine⟩ := sticks
    obtain ⟨after, panicked, torn⟩ := Run.exists_of_panics _ _ _ panicked
    simp only [Bool.and_eq_true, beq_iff_eq] at torn
    obtain ⟨⟨state, -⟩, unwritten⟩ := torn
    cases behavior : running.behavior with
    | process => simp [behavior] at machine
    | machine definition limit suppressed =>
      simp only [behavior, beq_iff_eq] at machine
      obtain ⟨position, message, entry, new, picked, there, mutation, event⟩ :=
        machine_turn_broken_off next found behavior panicked
      have current : new.memory.state = some "open" := by
        rw [World.currentState?, there] at state
        exact state
      rw [context] at event
      refine ⟨world, ready, running, after, new, definition, limit, suppressed, session, next,
        found, behavior, panicked, by rw [context, machine, shut], there, ?_⟩
      have moved : new.memory ≠ running.memory := by
        intro same
        rw [same, shut] at current
        exact absurd (Option.some.inj current) (by decide)
      obtain ⟨source, payload, candidate, old, -, target, -, agrees⟩ :=
        event fun same => moved (mutation same)
      rw [context]
      obtain rfl : "shut" = source := Option.some.inj (shut.symm.trans old)
      rw [Ne, agrees machine unwritten]
      intro back
      rw [target, back] at current
      exact absurd (Option.some.inj current) (by decide)

end Troupe
