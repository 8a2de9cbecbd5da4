import Troupe.Proofs.Behavior.CurrentState
import Troupe.Proofs.Store.Reload
import Troupe.Proofs.World.Flush
import Troupe.Proofs.World.Tenure

/-!
# State machines resume where they were

A machine whose entry actions keep the field `state` names its state in its context, whenever
no pass is under way, if nothing writes the context but the ends of its own passes.  So when it
is started again, over the context as it is or as it was saved, it resumes in that state, and
does nothing else.

Whether anything else has written the context shows in how often it was written: a write from
elsewhere puts the count ahead of the number of passes, and it stays ahead.

## Main results

* `Engine.finish_tallies`: the end of a pass keeps the count of the context and what it says;
* `World.tracks_maintained`: so do the start of a machine and its turns;
* `Quiet.machine_resumes`: a machine is in the state that its context names, and resumes in it.
-/

namespace Troupe

/-! ## What the context says -/

namespace Store

variable {first store before after : Store} {object : Id} {writes : Nat} {Holds Holds' : Prop}

/-- An object that was there at first is there still and may be written; its fields were in
order. -/
structure Retains (first : Store) (object : Id) (store : Store) : Prop where
  /-- It is there, -/
  there : (store.read object).isSome
  /-- it is not protected, -/
  free : object ∉ store.locked
  /-- its identifier was not handed out since, -/
  old : ¬ first.supply.Mints store.supply object
  /-- and at first its fields were in order. -/
  sorted : ∀ value, first.read object = some value → Assoc.Sorted value.fieldsOf

/-- It was there all the time. -/
lemma Retains.of_since (kept : first.Retains object after) (earlier : first.Since before)
    (later : before.Since after) : first.Retains object before where
  there := (later.origin object kept.there).resolve_right fun mints =>
    kept.old (mints.of_leads_left earlier.supply)
  free mem := kept.free (later.locked object mem)
  old mints := kept.old (mints.of_leads_right later.supply)
  sorted := kept.sorted

/-- An object that was there at first has been written so often at least, and if it has not been
written more often, something is the case. -/
def Counts (first : Store) (object : Id) (writes : Nat) (store : Store) (Holds : Prop) : Prop :=
  first.Retains object store →
    first.writeCount object + writes ≤ store.writeCount object ∧
    (store.writeCount object = first.writeCount object + writes → Holds)

lemma Counts.imp (counts : first.Counts object writes store Holds) (imp : Holds → Holds') :
    first.Counts object writes store Holds' :=
  fun kept => (counts kept).imp_right fun holds same => imp (holds same)

/-- What is written besides puts the count ahead. -/
lemma Counts.of_since (counts : first.Counts object writes before Holds) (earlier : first.Since before)
    (later : before.Since after)
    (imp : after.read object = before.read object → Holds → Holds') :
    first.Counts object writes after Holds' := by
  intro kept
  obtain ⟨le, holds⟩ := counts (kept.of_since earlier later)
  have le' := later.count_le object
  exact ⟨by omega, fun same => imp (later.read_eq object (by omega)) (holds (by omega))⟩

end Store

namespace MachineDefinition

variable {definition : MachineDefinition} {first store after : Store} {context : Id}
  {memory : Memory}

/-- The context names the state that a machine remembers, and the machine has that state. -/
def Persists (definition : MachineDefinition) (store : Store) (context : Id) (memory : Memory) :
    Prop :=
  ∃ state value, memory.state = some state ∧ definition.states.contains state = true ∧
    store.read context = some value ∧ value.Names state

/-- The context was written at the end of every pass, and if it was not written otherwise, it
names the state that the machine remembers. -/
def Tallies (definition : MachineDefinition) (first : Store) (context : Id) (store : Store)
    (memory : Memory) : Prop :=
  first.Counts context memory.passes store (definition.Persists store context memory)

lemma Tallies.of_since (tallies : definition.Tallies first context store memory)
    (earlier : first.Since store) (later : store.Since after) :
    definition.Tallies first context after memory := by
  refine Store.Counts.of_since tallies earlier later ?_
  rintro same ⟨state, value, current, known, found, names⟩
  exact ⟨state, value, current, known, same.trans found, names⟩

end MachineDefinition

namespace Activation

/-- What counts as the context that was read has the same fields. -/
lemma ofContext_fieldsOf (context : Json) :
    (ofContext (some context)).base.fieldsOf = context.fieldsOf := by
  cases context <;> rfl

end Activation

open World

namespace Engine

variable {engine : Engine} {id : Id} {P : World → Prop} {definition : MachineDefinition}
variable {world worked after : World} {first start : Store}

/-- The end of a pass writes the context once, and what it writes names the state that was staged
if nothing else was written since the context was read. -/
theorem finish_tallies {occasion : Occasion} {last : Activation} {context : Id} {state : String}
    {passes : Nat} (own : occasion.actor.config.context = context)
    (begun : first.Since start) (meanwhile : start.Since world.store)
    (ending : world.store.Since after.store) (stages : last.Stages (start.read context) state)
    (counts : first.Counts context passes start
      (∀ value, start.read context = some value → Assoc.Sorted value.fieldsOf))
    (ran : engine.runPass id (occasion.finish last) world = .ok () after) :
    first.Counts context (passes + 1) after.store
      (∃ value, after.store.read context = some value ∧ value.Names state) := by
  intro kept
  subst own
  have kept' := kept.of_since (begun.trans meanwhile) ending
  obtain ⟨current, found⟩ := Option.isSome_iff_exists.1 kept'.there
  have record : (last.base.diff last.working).isObject = true :=
    (Json.isObject_diff _ _).trans stages.object
  have wrote := Engine.runPass_finish engine id occasion found kept'.free record
  rw [wrote] at ran
  cases ran
  obtain ⟨-, read, counted, -⟩ := write_update found kept'.free record
  obtain ⟨le, sorted⟩ := counts (kept'.of_since begun meanwhile)
  have le' := meanwhile.count_le occasion.actor.config.context
  refine ⟨by omega, fun same => ⟨_, read, ?_⟩⟩
  -- nothing was written since the context was read, so the difference is merged into what was read
  have untouched := meanwhile.read_eq occasion.actor.config.context (by omega)
  have fields : last.base.fieldsOf = current.fieldsOf := by
    rw [stages.base, ← untouched, found, Activation.ofContext_fieldsOf]
  have ordered := sorted (by omega) current (untouched.symm.trans found)
  refine Json.Names.merge_diff (stages.names ?_) ordered fields
  rwa [← stages.base, fields]

variable {running current : Running}

/-- When a machine has been started, its context names the state that it remembers. -/
theorem start_tallies (actor : Actor) (stable : Stable actor.id P) (minds : engine.Minds actor.id P)
    (entries : definition.EntriesKeepState) (known : definition.Declared)
    (found : world.running.find? actor.id = some running) (busy : running.activity ≠ .idle)
    (begun : first.Since world.store) (unwritten : running.memory.passes = 0)
    (ran : engine.runPass actor.id (Machine.start definition actor running.memory) world =
      .ok () after) {new : Running} (there : after.running.find? actor.id = some new) :
    definition.Tallies first actor.config.context after.store new.memory := by
  -- before the first pass, a context that was not written is the one that was there at first
  have sorted : first.Counts actor.config.context 0 world.store
      (∀ value, world.store.read actor.config.context = some value →
        Assoc.Sorted value.fieldsOf) := fun kept =>
    ⟨begun.count_le _, fun same value read =>
      kept.sorted value ((begun.read_eq _ same).symm.trans read)⟩
  rw [Machine.start_eq, runPass_read] at ran
  dsimp only at ran
  cases persisted : Machine.persistedState? definition (world.store.read actor.config.context) with
  | some state =>
    rw [persisted] at ran
    dsimp only at ran
    rw [runPass_remember_done] at ran
    cases ran
    obtain rfl := Option.some.inj ((remember_found _ found).symm.trans there)
    rw [remember, updateRunning_store]
    obtain ⟨value, read, named, declared⟩ := Machine.persistedState?_eq_some.1 persisted
    have tallies : first.Counts actor.config.context running.memory.passes world.store
        (definition.Persists world.store actor.config.context
          { running.memory with state := some state }) := by
      rw [unwritten]
      exact sorted.imp fun ordered =>
        ⟨state, value, rfl, declared, read, Json.names_of_field? named (ordered value read)⟩
    exact tallies
  | none =>
    rw [persisted, runPass_read] at ran
    obtain ⟨last, middle, entered, ran⟩ := runPass_bind ran
    obtain ⟨⟨⟩, flushed, finished, ran⟩ := runPass_bind ran
    rw [runPass_remember_done] at ran
    cases ran
    obtain ⟨_, mid, entering, enters⟩ := runPass_yields stable minds found busy entered
    obtain ⟨-, old, finishing, -⟩ :=
      runPass_yields stable minds entering.found (entering.kept.activity ▸ busy) finished
    obtain rfl := Option.some.inj ((remember_found _ finishing.found).symm.trans there)
    have counts := finish_tallies rfl begun entering.store finishing.store
      (Machine.enterFirst_leaves entries enters) sorted finished
    rw [remember, updateRunning_store, MachineDefinition.Tallies]
    dsimp only
    rw [unwritten]
    refine counts.imp ?_
    rintro ⟨value, read, names⟩
    exact ⟨definition.initial, value, rfl, known.initial, read, names⟩

/-- When a machine has handled an event, its context names the state that it remembers, if it did
before. -/
theorem serve_tallies (actor : Actor) {limit : Nat} {suppressed : List String} {event : Event}
    {outcome : Option (Activation × Dispatch)} {dispatch : Dispatch}
    (stable : Stable actor.id P) (minds : engine.Minds actor.id P)
    (entries : definition.EntriesKeepState) (known : definition.Declared)
    (found : world.running.find? actor.id = some running) (busy : running.activity ≠ .idle)
    (begun : first.Since world.store)
    (tallies : definition.Tallies first actor.config.context world.store running.memory)
    (work : engine.runPass actor.id
      (Machine.work definition limit suppressed actor running.memory event) world = .ok outcome worked)
    (flush : engine.runPass actor.id ((Behavior.machine definition limit suppressed).conclude actor
      event outcome) worked = .ok dispatch after)
    {new : Running} (there : after.running.find? actor.id = some new) :
    definition.Tallies first actor.config.context after.store new.memory := by
  obtain ⟨_, mid, working, worksOut⟩ := runPass_yields stable minds found busy work
  have busy' : mid.activity ≠ .idle := working.kept.activity ▸ busy
  -- what the work comes to follows from the pass alone and the context that it reads first
  have outcomes : Machine.Leaves definition running.memory
      (world.store.read actor.config.context) (outcome.map Prod.fst) mid.memory := by
    rcases Machine.work_leaves known entries limit suppressed actor running.memory event with
      nothing | ⟨next, reads, leaves⟩
    · rw [nothing] at worksOut
      obtain ⟨-, rfl, same⟩ := Pass.yields_done.1 worksOut
      exact same
    · rw [reads, runPass_read] at work
      obtain ⟨log, mid', working', worksOut'⟩ := runPass_yields stable minds found busy work
      obtain rfl := Option.some.inj (working.found.symm.trans working'.found)
      exact leaves _ _ _ _ worksOut'
  cases outcome with
  | none =>
    cases flush
    obtain rfl := Option.some.inj (working.found.symm.trans there)
    have same : mid.memory = running.memory := outcomes
    exact same ▸ tallies.of_since begun working.store
  | some outcome =>
    obtain ⟨last, result⟩ := outcome
    obtain ⟨state, remembers, passes, declared, stages⟩ := outcomes
    obtain ⟨⟨⟩, flushed, finished, returned⟩ := runPass_bind flush
    cases returned
    obtain ⟨_, old, finishing, forgets⟩ := runPass_yields stable minds working.found busy' finished
    obtain rfl := Option.some.inj (finishing.found.symm.trans there)
    have ordered : first.Counts actor.config.context running.memory.passes world.store
        (∀ value, world.store.read actor.config.context = some value →
          Assoc.Sorted value.fieldsOf) :=
      Store.Counts.imp tallies (by
        rintro ⟨_, value, -, -, found, names⟩ other read
        obtain rfl := Option.some.inj (read.symm.trans found)
        exact names.sorted)
    have counts := finish_tallies rfl begun working.store finishing.store stages ordered finished
    rw [(Occasion.finish_yields forgets).1, MachineDefinition.Tallies, passes]
    refine counts.imp ?_
    rintro ⟨value, read, names⟩
    exact ⟨state, value, remembers, declared, read, names⟩

end Engine

/-! ## An actor that is running -/

/-- The behavior of an actor was loaded from its record, and if it is a machine whose entry actions
keep the field `state`, its context names the state that it remembers. -/
structure Running.Tracked (running : Running) (first store : Store) : Prop where
  /-- The behavior was loaded. -/
  loaded : ∃ config, Behavior.load running.config.behavior config = .ok running.behavior
  /-- The context names the state. -/
  tallies : ∀ definition limit suppressed, running.behavior = .machine definition limit suppressed →
    definition.EntriesKeepState →
    definition.Tallies first running.config.context store running.memory

lemma Running.Tracked.of_kept {old new : Running} {first before after : Store}
    (tracked : old.Tracked first before) (kept : old.Kept new) (same : new.memory = old.memory)
    (earlier : first.Since before) (later : before.Since after) : new.Tracked first after where
  loaded := by
    rw [kept.config, kept.behavior]
    exact tracked.loaded
  tallies definition limit suppressed machine entries := by
    rw [kept.behavior] at machine
    rw [kept.config, same]
    exact (tracked.tallies definition limit suppressed machine entries).of_since earlier later

namespace World

variable {first world after : World} {actor : Id}

/-- While no pass of an actor is under way, its context names the state that it remembers. -/
structure Tracks (first : World) (actor : Id) (world : World) : Prop where
  /-- The store has changed by writes and protection. -/
  since : first.store.Since world.store
  /-- No pass of the actor is under way, -/
  idle : ∀ running, world.running.find? actor = some running → running.activity = .idle
  /-- and its context names the state. -/
  tracked : ∀ running, world.running.find? actor = some running →
    running.Tracked first.store world.store

lemma tracks_stable (first : World) (actor : Id) : Stable actor (first.Tracks actor) := by
  intro before after apart tracks
  refine ⟨tracks.since.trans apart.store, fun running found => ?_, fun running found => ?_⟩
  · exact tracks.idle running (apart.running ▸ found)
  · exact (tracks.tracked running (apart.running ▸ found)).of_kept (.refl _) rfl tracks.since
      apart.store

end World

namespace Engine

variable {engine : Engine} {id : Id} {P : World → Prop} {first world after : World}
variable {running new : Running}

/-- What a turn makes of what is remembered keeps what the context says. -/
lemma Alters.tracked {before last : Store} {memory : Memory} (stable : Stable id P)
    (minds : engine.Minds id P) (since : first.store.Since before)
    (tracked : running.Tracked first.store before) (kept : running.Kept new)
    (alters : engine.Alters id running before last memory) (store : before.Since last)
    (remembers : new.memory = memory) : new.Tracked first.store last := by
  cases alters with
  | stays => exact tracked.of_kept kept remembers since store
  | @handles world worked last busy done event outcome dispatch log idle earlier found turned same
      work flush during yields later =>
    obtain ⟨loaded, tallies⟩ := tracked
    have since' := since.trans earlier
    refine ⟨kept.config ▸ kept.behavior ▸ loaded,
      fun definition limit suppressed machine entries => ?_⟩
    rw [kept.behavior] at machine
    obtain ⟨settings, loaded⟩ := loaded
    rw [machine] at loaded work flush
    have known := MachineDefinition.declared_of_ofJson (Behavior.ofJson_of_load loaded)
    have begun := (tallies definition limit suppressed machine entries).of_since since earlier
    rw [← same] at begun work
    have ended := serve_tallies ⟨id, running.config⟩ stable minds entries known found turned since'
      begun work flush during.found
    rw [remembers, kept.config]
    exact ended.of_since (since'.trans during.store) later

/-- The turn of an actor keeps what its context says. -/
lemma Served.tracks {answer : Option Bool} (stable : Stable id P) (minds : engine.Minds id P)
    (served : engine.Served id world answer after) (tracks : first.Tracks id world) :
    first.Tracks id after := by
  cases found : world.running.find? id with
  | none => exact served.eq_of_stopped found ▸ tracks
  | some running =>
    obtain ⟨new, during, alters⟩ := served.during stable minds found
    refine ⟨tracks.since.trans during.store, fun other there => ?_, fun other there => ?_⟩
    · obtain rfl := Option.some.inj (during.found.symm.trans there)
      exact during.kept.activity.trans (tracks.idle running found)
    · obtain rfl := Option.some.inj (during.found.symm.trans there)
      exact alters.tracked stable minds tracks.since (tracks.tracked running found) during.kept
        during.store rfl

/-- The start of an actor has its context say in which state it is. -/
lemma Started.tracks (stable : Stable id P) (minds : engine.Minds id P)
    (started : engine.Started id world after) (tracks : first.Tracks id world) :
    first.Tracks id after := by
  rcases started.begins stable minds with rfl | ⟨new, begins⟩
  · exact tracks
  · refine ⟨tracks.since.trans begins.store, fun other there => ?_, fun other there => ?_⟩
    · obtain rfl := Option.some.inj (begins.found.symm.trans there)
      exact begins.idle
    · obtain rfl := Option.some.inj (begins.found.symm.trans there)
      have loaded := begins.loaded
      refine ⟨⟨_, loaded⟩, fun definition limit suppressed machine entries => ?_⟩
      obtain ⟨begun, last, busy, done, earlier, found, turned, fresh, ran, ended, same, store⟩ :=
        begins.passes
      -- the start pass begins with what a behavior remembers at first
      rw [machine] at loaded ran fresh
      rw [← fresh] at ran
      have known := MachineDefinition.declared_of_ofJson (Behavior.ofJson_of_load loaded)
      rw [← same, ← store]
      exact start_tallies ⟨id, new.config⟩ stable minds entries known found turned
        (tracks.since.trans earlier) (congrArg Memory.passes fresh) ran ended

end Engine

namespace World

/-- What the context of an actor says is kept by whatever goes on. -/
theorem tracks_maintained (first : World) (actor : Id) : Maintained actor (first.Tracks actor) where
  stable := tracks_stable first actor
  starts minds started := started.tracks (tracks_stable first actor) minds
  serves minds served := served.tracks (tracks_stable first actor) minds

/-! ## Resuming -/

/-- How an actor resumes in a state that is started. -/
structure Resumes (world : World) (actor : Id) (config : ActorConfig) (state : String) : Prop where
  /-- Its start pass reads the context, remembers the state, and is done; no action is run. -/
  pass : ∃ behavior next, Behavior.load config.behavior world.config = .ok behavior ∧
    behavior.start ⟨actor, config⟩ behavior.initialMemory = .read config.context next ∧
    next (world.store.read config.context) =
      .remember { behavior.initialMemory with state := some state } (.done ())
  /-- It runs in the state; it watches its inbox, is queued, and its start is noted.  Nothing else
  changes: nothing is written, sent or called. -/
  spawn : ∀ depth, ∃ after, (engine (depth + 1)).spawn actor world = .ok (.ok ()) after ∧
    after.currentState? actor = some state ∧
    after = { world with
      store := (world.store.subscribe config.inbox (.actor actor)).2
      running := after.running
      ready := world.ready.push actor
      journal := .spawned actor config.inbox :: world.journal }

variable {world : World} {actor : Id}

lemma currentState?_of_found {running : Running} (found : world.running.find? actor = some running) :
    world.currentState? actor = running.memory.state := by
  rw [currentState?, found]
  rfl

/-- An actor that does not run resumes in the state that its context names. -/
theorem resumes_of_persisted {config : ActorConfig} {definition : MachineDefinition} {limit : Nat}
    {suppressed : List String} {state : String} (stopped : world.running.find? actor = none)
    (record : world.actorConfig actor = .ok config)
    (loaded : Behavior.load config.behavior world.config =
      .ok (.machine definition limit suppressed))
    (persisted : Machine.persistedState? definition (world.store.read config.context) = some state) :
    world.Resumes actor config state := by
  let memory := Behavior.initialMemory (.machine definition limit suppressed)
  obtain ⟨next, start, resumes⟩ := Machine.start_resumes definition ⟨actor, config⟩ memory
  refine ⟨⟨_, next, loaded, start, resumes _ _ persisted⟩, fun depth => ?_⟩
  · let entered := (world.enlist actor config (.machine definition limit suppressed)).turnTo actor
      .starting
    have found := Engine.enlist_found world actor config (.machine definition limit suppressed)
    have read : entered.store.read config.context = world.store.read config.context := by
      have same : entered.store = (world.store.subscribe config.inbox (.actor actor)).2 :=
        updateRunning_store _ _ _
      rw [same]
      rfl
    have passed : ∀ engine : Engine, engine.runPass actor
        ((Behavior.machine definition limit suppressed).start ⟨actor, config⟩ memory) entered =
        .ok () (entered.remember actor { memory with state := some state }) := by
      intro engine
      change engine.runPass actor (Machine.start definition ⟨actor, config⟩ memory) entered = _
      rw [start, Engine.runPass_read, read, resumes _ _ persisted]
      rfl
    refine ⟨((entered.remember actor { memory with state := some state }).turnTo actor .idle).schedule
      actor, ?_, ?_, ?_⟩
    · change Engine.spawnAt (depth + 1) actor world = _
      rw [Engine.spawnAt, Engine.spawnWith_of_record _ (by simp [Table.contains, stopped]) record
        loaded, passed]
    · exact currentState?_of_found (turnTo_found .idle (remember_found _ found))
    · -- three times what is known of the actor changes, and nothing else
      obtain ⟨first, begun⟩ : ∃ running, entered =
          { world.enlist actor config (.machine definition limit suppressed) with running } :=
        ⟨_, updateRunning_frame _ _ _⟩
      obtain ⟨second, remembered⟩ : ∃ running,
          entered.remember actor { memory with state := some state } = { entered with running } :=
        ⟨_, updateRunning_frame _ _ _⟩
      have idled := updateRunning_frame (entered.remember actor { memory with state := some state })
        actor fun running => { running with activity := .idle }
      rw [turnTo, idled, remembered, begun]
      rfl

/-- A machine that runs is in a state that its context names, and resumes in it when it has been
stopped, or when the store has been saved and loaded. -/
structure Resumable (world : World) (actor : Id) (running : Running) (state : String) : Prop where
  /-- The machine is in the state, -/
  current : world.currentState? actor = some state
  /-- and its context names it. -/
  persisted : ∃ value, world.store.read running.config.context = some value ∧
    value.field? "state" = some (.str state)
  /-- It can be stopped, and if its record says what it said, it resumes. -/
  stop : ∃ stopped, World.stop actor world = .ok true stopped ∧
    (world.actorConfig actor = .ok running.config →
      stopped.Resumes actor running.config state)
  /-- Where the store has been saved and loaded, it resumes too. -/
  restore : ∀ config restored, world.restore? config = some restored →
    restored.actorConfig actor = .ok running.config →
    restored.Resumes actor running.config state

/-- An idle actor is stopped. -/
lemma stop_of_idle {running : Running} (found : world.running.find? actor = some running)
    (idle : running.activity = .idle) :
    World.stop actor world = .ok true (world.dismiss actor running) := by
  rw [stop, Run.get_bind, found]
  dsimp only
  rw [if_neg (not_not.2 idle)]
  rfl

/-- What a context says survives when the store is saved and loaded. -/
lemma persisted_of_restore? {config : Config} {restored : World} {definition : MachineDefinition}
    {context : Id} {value : Json} {state : String} (saved : world.restore? config = some restored)
    (read : world.store.read context = some value) (names : value.Names state)
    (declared : definition.states.contains state = true) :
    Machine.persistedState? definition (restored.store.read context) = some state := by
  -- numbers may be read back otherwise, but texts are not
  obtain ⟨store, reloaded, rfl⟩ := restore?_some saved
  have survives := Store.read_of_reload? reloaded context
  rw [read] at survives
  change Machine.persistedState? definition (store.read context) = some state
  cases loaded : store.read context with
  | none =>
    rw [loaded] at survives
    exact survives.elim
  | some content =>
    rw [loaded, Json.eq_obj names.object] at survives
    obtain ⟨fields, rfl, -, each⟩ := survives.obj (Assoc.nodup_of_sorted names.sorted)
    have field := each "state"
    rw [names.state] at field
    cases kept : Assoc.find? "state" fields with
    | none =>
      rw [kept] at field
      exact field.elim
    | some text =>
      rw [kept] at field
      cases Json.Survives.str field
      exact Machine.persistedState?_eq_some.2 ⟨_, rfl, kept, declared⟩

end World

/-- The context of an actor is there and may be written, and the actor's own passes alone have
written it, once each. -/
structure Running.OwnsContext (running : Running) (first store : Store) : Prop
    extends first.Retains running.config.context store where
  /-- It has been written as often as passes have come to their end. -/
  writes : store.writeCount running.config.context =
    first.writeCount running.config.context + running.memory.passes

/-- **A state machine resumes where it was.**  Take a machine whose entry actions do not patch the
field `state` of the context.  Whenever no pass is under way, if nothing but the ends of its own
passes has written its context since it was started, then it is in the state that its context
names; and when it is stopped and started again, or the store is saved and loaded and it is
started there, it resumes in that state, and its start does nothing else. -/
theorem Quiet.machine_resumes {first world : World} {actor : Id} {running : Running}
    {definition : MachineDefinition} {limit : Nat} {suppressed : List String}
    (quiet : Quiet first world) (stopped : first.running.find? actor = none)
    (found : world.running.find? actor = some running)
    (machine : running.behavior = .machine definition limit suppressed)
    (entries : definition.EntriesSpareState) :
    (∃ outset, Quiet first outset ∧ outset.Outset actor world) ∧
    ∀ outset : World, outset.Outset actor world → running.OwnsContext outset.store world.store →
      ∃ state, world.Resumable actor running state := by
  refine ⟨quiet.exists_outset stopped found, fun outset begun owns => ?_⟩
  -- at the outset the actor does not run, so there is nothing to be tracked
  have starts : outset.Tracks actor outset := by
    refine ⟨.refl _, fun running found => ?_, fun running found => ?_⟩
    · rw [begun.stopped] at found
      cases found
    · rw [begun.stopped] at found
      cases found
  have tracks := begun.quiet.maintains (tracks_maintained outset actor) starts begun.continues
  have idle := tracks.idle running found
  obtain ⟨⟨settings, loaded⟩, tallies⟩ := tracks.tracked running found
  rw [machine] at loaded
  obtain ⟨-, persists⟩ := tallies definition limit suppressed machine
    (entries.keep (Behavior.ofJson_of_load loaded)) owns.toRetains
  obtain ⟨state, value, current, declared, read, names⟩ := persists owns.writes
  refine ⟨state, (currentState?_of_found found).trans current, ⟨value, read, names.field?⟩,
    ⟨_, stop_of_idle found idle, fun record => ?_⟩, fun config restored saved record => ?_⟩
  · refine resumes_of_persisted ((Table.find?_erase _ _ _).trans (if_pos rfl)) record
      (Behavior.load_of_load loaded _) ?_
    exact Machine.persistedState?_eq_some.2 ⟨value, read, names.field?, declared⟩
  · refine resumes_of_persisted (restore?_loses saved).stopped record
      (Behavior.load_of_load loaded _) ?_
    exact persisted_of_restore? saved read names declared

namespace Sample

/-- The behavior of a lamp that is switched on. -/
def lamp : Json := .record
  [("kind", .str "machine"), ("initial", .str "off"),
    ("states", .record
      [("off", .record [("on", .record [("GO", .str "on")])]),
        ("on", .record [("entry", .record [("ctx", .record [("lit", .bool true)])])])])]

/-- A runtime with a lamp whose inbox lists a message. -/
def dark : World :=
  World.new {} (Store.ofImage ⟨.ofNat, 10⟩ ⟨Table.ofList
    [(.ofNat 1, .obj [("entries", .arr [.id (.ofNat 4)])]),
      (.ofNat 2, .empty),
      (actor, (ActorConfig.toJson ⟨["GO"], .ofNat 1, .ofNat 2, lamp, none, ∅,
        Table.ofList [("GO", .bool true)]⟩)),
      (.ofNat 4, (Entry.pending actor { type := "GO", payload := .empty }).toJson)], ∅⟩)
    ⟨.ofNat, 0⟩ ⟨0, 1000⟩

/-- Whether an action is no patch with a field `state`. -/
def spares : Action → Bool
  | .ctx patch => (patch.field? "state").isNone
  | _ => true

/-- Whether the lamp is on, over a context that only its own passes have written; and whether it
is on again when it has been stopped and started. -/
def lit (world : World) : Bool :=
  (world.running.find? actor).any (fun running =>
    running.config.context == .ofNat 2 && running.memory.passes == 2 &&
    match running.behavior with
    | .machine definition _ _ =>
      definition.states.entries.all (fun entry => entry.2.entry.all spares) &&
        definition.named.lists.entries.all fun entry => entry.2.all spares
    | .process _ _ => false) &&
  world.currentState? actor == some "on" &&
  (world.store.read (.ofNat 2)).isSome && world.store.locked.isEmpty &&
  world.store.supply.made == 10 && world.store.writeCount (.ofNat 2) == 2 &&
  world.journal.all (fun note => !note.ends actor) &&
  Command.allReturn 1 [.stop actor, .start actor]
    (fun world => world.currentState? actor == some "on") world

end Sample

/-- A lamp is on when it has been switched on, and it resumes so. -/
theorem Quiet.lamp_resumes :
    ∃ world running, Quiet Sample.dark world ∧ Sample.dark.Outset Sample.actor world ∧
      world.running.find? Sample.actor = some running ∧
      running.OwnsContext Sample.dark.store world.store ∧
      world.Resumable Sample.actor running "on" ∧
      Command.allReturn 1 [.stop Sample.actor, .start Sample.actor]
        (fun world => world.currentState? Sample.actor == some "on") world := by
  obtain ⟨⟨⟩, world, ran, tested⟩ := Run.exists_of_returns (Command.run 2 (.spawn Sample.actor))
    (fun _ world => Sample.lit world) Sample.dark (by decide +kernel)
  simp only [Sample.lit, Bool.and_eq_true, beq_iff_eq, Option.any_eq_true, List.all_eq_true,
    Bool.not_eq_true'] at tested
  obtain ⟨⟨⟨⟨⟨⟨⟨⟨running, found, ⟨context, passes⟩, plain⟩, current⟩, there⟩, free⟩, made⟩, writes⟩,
    goesOn⟩, again⟩ := tested
  have quiet := Quiet.first.returned 2 (.spawn Sample.actor) ran
  have outset : Sample.dark.Outset Sample.actor world :=
    ⟨quiet, by decide +kernel, world.journal, (List.append_nil _).symm, goesOn⟩
  have owns : running.OwnsContext Sample.dark.store world.store := by
    have blank : Sample.dark.store.read (.ofNat 2) = some .empty := rfl
    have unwritten : Sample.dark.store.writeCount (.ofNat 2) = 0 := by decide +kernel
    refine ⟨⟨context ▸ there, ?_, ?_, fun value read => ?_⟩, ?_⟩
    · rw [List.isEmpty_iff.1 free]
      exact List.not_mem_nil
    · rintro ⟨n, le, lt, -⟩
      rw [made] at lt
      exact absurd (Nat.lt_of_le_of_lt le lt) (by decide)
    · rw [context, blank] at read
      cases read
      exact Assoc.sorted_nil
    · rw [context, writes, unwritten, passes]
  cases behavior : running.behavior with
  | process => simp [behavior] at plain
  | machine definition limit suppressed =>
    simp only [behavior, Bool.and_eq_true, List.all_eq_true] at plain
    have entries : definition.EntriesSpareState := by
      intro state node declared list leads patch mem
      have spares := leads.forall_mem (plain.1 _ (Table.mem_entries.2 declared))
        (fun name list found => plain.2 _ (Table.mem_entries.2 found)) _ mem
      exact Option.isNone_iff_eq_none.1 spares
    obtain ⟨-, resumes⟩ :=
      quiet.machine_resumes outset.stopped found behavior entries
    obtain ⟨state, resumable⟩ := resumes _ outset owns
    obtain rfl := Option.some.inj (resumable.current.symm.trans current)
    exact ⟨world, running, quiet, outset, found, owns, resumable, again⟩

end Troupe
