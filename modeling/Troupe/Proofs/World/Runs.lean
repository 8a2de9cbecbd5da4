import Mathlib.Tactic.SplitIfs
import Troupe.Proofs.Pass.Requests
import Troupe.Proofs.World.Steps

/-!
# Computations go by steps

Whatever a runtime computes, from the script of a tool to a whole pump, takes it from state to
state by steps, and leaves alone what a nested computation has to: `World.BySteps`.  The proof
follows the computation, part by part; the two ways back into the runtime are dealt with by
induction on how deep they nest (`engine_bySteps`).

## Main results

* `Engine.runScript_bySteps`, `Engine.runPass_bySteps`: scripts and passes go by steps;
* `Engine.handleNext_bySteps`: so does the handling of an entry, if one step is counted with it
  that takes the actor from the queue;
* `engine_bySteps`: so do starting an actor and pumping, however deep they nest.
-/

namespace Troupe

open Relation

namespace World

variable {α β : Type} {world middle after : World} {actor : Id}

/-- A result is reached by steps, or by breaks too if it is a halt, and what a nested computation
has to leave alone is left alone.  A halt that is no deadlock breaks off after steps. -/
def Ends (world : World) : EStateM.Result Halt World α → Prop
  | .ok _ after => Steps world after ∧ world.Nests after
  | .error halt after =>
    StepsOrBreaks world after ∧ world.Nests after ∧ (halt ≠ .deadlock → world.BreaksOff after)

/-- A computation goes by steps. -/
def BySteps (run : Run α) (world : World) : Prop := world.Ends (run world)

lemma BySteps.ok {run : Run α} {result : α} (bySteps : BySteps run world)
    (ran : run world = .ok result after) : Steps world after ∧ world.Nests after := by
  rwa [BySteps, ran] at bySteps

lemma BySteps.error {run : Run α} {halt : Halt} (bySteps : BySteps run world)
    (ran : run world = .error halt after) :
    StepsOrBreaks world after ∧ world.Nests after ∧ (halt ≠ .deadlock → world.BreaksOff after) := by
  rwa [BySteps, ran] at bySteps

lemma bySteps_pure (result : α) (world : World) : BySteps (pure result : Run α) world :=
  ⟨.refl, .refl world⟩

lemma bySteps_throw (halt : Halt) (world : World) : BySteps (throw halt : Run α) world :=
  ⟨.refl, .refl world, fun _ => .refl world⟩

lemma bySteps_modifyGet {f : World → α × World} (steps : Steps world (f world).2)
    (nests : world.Nests (f world).2) : BySteps (modifyGet f : Run α) world :=
  ⟨steps, nests⟩

lemma bySteps_modify {f : World → World} (steps : Steps world (f world))
    (nests : world.Nests (f world)) : BySteps (modify f : Run Unit) world :=
  ⟨steps, nests⟩

/-- What follows a computation starts where the computation ends. -/
lemma Ends.bind {start : World} {first : Run α} {next : α → Run β}
    (ends : world.Ends (first start))
    (goesOn : ∀ result middle, first start = .ok result middle → world.Nests middle →
      BySteps (next result) middle) : world.Ends ((first >>= next) start) := by
  cases ran : first start with
  | ok result middle =>
    rw [ran] at ends
    obtain ⟨steps, nests⟩ := ends
    have bySteps := goesOn result middle ran nests
    rw [Run.bind_of_ok ran]
    rw [BySteps] at bySteps
    cases ended : next result middle <;> rw [ended] at bySteps
    · exact ⟨steps.trans bySteps.1, nests.trans bySteps.2⟩
    · exact ⟨steps.stepsOrBreaks.trans bySteps.1, nests.trans bySteps.2.1,
        fun ne => (bySteps.2.2 ne).head steps⟩
  | error halt middle =>
    rw [ran] at ends
    rw [Run.bind_of_error ran]
    exact ends

lemma BySteps.bind {first : Run α} {next : α → Run β} (bySteps : BySteps first world)
    (goesOn : ∀ result middle, first world = .ok result middle → world.Nests middle →
      BySteps (next result) middle) : BySteps (first >>= next) world :=
  Ends.bind bySteps goesOn

lemma bySteps_pure_bind {result : α} {next : α → Run β} (bySteps : BySteps (next result) world) :
    BySteps (pure result >>= next) world := bySteps

lemma bySteps_get {next : World → Run α} (bySteps : BySteps (next world) world) :
    BySteps (get >>= next) world := bySteps

end World

/-- The ways back into the runtime go by steps. -/
structure Engine.BySteps (engine : Engine) : Prop where
  /-- Starting an actor. -/
  spawn : ∀ id world, World.BySteps (engine.spawn id) world
  /-- Pumping. -/
  pump : ∀ world, World.BySteps engine.pump world

namespace Engine

open World

variable {α : Type} {engine : Engine} {world : World} {actor : Id}

/-! ## Scripts -/

lemma post_bySteps (bySteps : engine.BySteps) (target : Id) (message : Message) (world : World) :
    World.BySteps (engine.post target message) world := by
  refine bySteps_get (BySteps.bind ?_ fun result middle _ _ => ?_)
  · exact bySteps_modifyGet (.single (.post world target message))
      (world.post_storeFrame target message).nests
  · cases result with
    | error error => exact bySteps_pure _ _
    | ok id =>
      dsimp only
      split
      · exact BySteps.bind (bySteps.spawn target middle) fun _ _ _ _ => bySteps_pure _ _
      · exact bySteps_pure _ _

lemma deliver_bySteps (bySteps : engine.BySteps) (target : Id) (message : Message) (world : World) :
    World.BySteps (engine.deliver target message) world := by
  refine BySteps.bind (post_bySteps bySteps target message world) fun result middle _ _ => ?_
  cases result with
  | error error => exact bySteps_pure _ _
  | ok id => exact BySteps.bind (bySteps.pump middle) fun _ _ _ _ => bySteps_pure _ _

/-- A script goes by steps. -/
theorem runScript_bySteps (bySteps : engine.BySteps) (script : Script α) (world : World) :
    World.BySteps (engine.runScript script) world := by
  induction script generalizing world with
  | done result => exact bySteps_pure _ _
  | panic => exact bySteps_throw _ _
  | read id next ih => exact bySteps_get (ih _ world)
  | execute op next ih =>
    exact BySteps.bind
      (bySteps_modifyGet (.single (.write world op)) (world.write_storeFrame op).nests)
      fun result middle _ _ => ih result middle
  | deliver target message next ih =>
    exact BySteps.bind (deliver_bySteps bySteps target message.plain world) fun result middle _ _ =>
      ih result middle
  | pump next ih =>
    exact BySteps.bind (bySteps.pump world) fun handled middle _ _ => ih handled middle

lemma tools_nests (world : World) (tools : ToolRegistry) : world.Nests { world with tools } :=
  .of_running rfl (List.suffix_refl _) rfl rfl rfl

lemma callTool_bySteps (bySteps : engine.BySteps) (name : String) (view : ActorView)
    (payload : Json) (world : World) : World.BySteps (engine.callTool name view payload) world := by
  refine BySteps.bind (bySteps_modifyGet (.single (.tools world _)) (tools_nests world _))
    fun admitted middle _ _ => ?_
  cases admitted with
  | error cause => exact bySteps_pure _ _
  | ok code =>
    refine BySteps.bind (runScript_bySteps bySteps (code view payload) middle)
      fun result middle _ _ => ?_
    exact BySteps.bind (bySteps_modify (.single (.tools middle _)) (tools_nests middle _))
      fun _ _ _ _ => bySteps_pure _ _

lemma invoke_bySteps (bySteps : engine.BySteps) (target : Id) (payload : Json) (world : World) :
    World.BySteps (engine.invoke target payload) world := by
  refine bySteps_get ?_
  dsimp only
  split
  · exact bySteps_pure _ _
  · split
    · exact bySteps_pure _ _
    · exact BySteps.bind (callTool_bySteps bySteps _ _ _ world) fun _ _ _ _ => bySteps_pure _ _

/-! ## Passes -/

lemma updateRunning_nests {change : Running → Running}
    (kept : ∀ old, world.running.find? actor = some old → old.Kept (change old)) :
    world.Nests (world.updateRunning actor change) where
  kept other old found := by
    refine ⟨if actor = other then change old else old, ?_, ?_⟩
    · rw [find?_updateRunning, found]
      split <;> rfl
    · split
      · rename_i same
        exact kept old (same ▸ found)
      · exact .refl old
  fresh other new stopped found := by
    obtain ⟨old, there, -⟩ := find?_updateRunning_some found
    rw [stopped] at there
    cases there
  journal := updateRunning_suffix _ _ _
  config := by rw [updateRunning_config]
  schemas := by rw [updateRunning_schemas]
  pumping := by rw [updateRunning_pumping]

lemma remember_nests (world : World) (actor : Id) (memory : Memory) :
    world.Nests (world.remember actor memory) :=
  updateRunning_nests fun _ _ => ⟨rfl, rfl, rfl, rfl, fun _ => rfl⟩

lemma registerAsk_nests (world : World) (asker target : Id) (event : String) :
    world.Nests (world.registerAsk asker target event).2 :=
  .of_running rfl (List.suffix_cons _ _) rfl rfl rfl

/-- A pass of a running actor that asks in its own name goes by steps. -/
theorem runPass_bySteps (bySteps : engine.BySteps) (pass : Pass α) (asks : pass.AsksAs actor)
    (world : World) (runs : world.running.contains actor) :
    World.BySteps (engine.runPass actor pass) world := by
  induction pass generalizing world with
  | done result => exact bySteps_pure _ _
  | read id next ih => exact bySteps_get (ih _ (asks.2 _) world runs)
  | execute op next ih =>
    exact BySteps.bind
      (bySteps_modifyGet (.single (.write world op)) (world.write_storeFrame op).nests)
      fun result middle _ nests => ih result (asks.2 _) middle (nests.contains runs)
  | callTool name view payload next ih =>
    exact BySteps.bind (callTool_bySteps bySteps name view payload world)
      fun result middle _ nests => ih result (asks.2 _) middle (nests.contains runs)
  | deliver target message next ih =>
    exact BySteps.bind (post_bySteps bySteps target message world) fun result middle _ nests =>
      ih _ (asks.2 _) middle (nests.contains runs)
  | interfaceOf target next ih => exact bySteps_get (ih _ (asks.2 _) world runs)
  | registerAsk asker target event next ih =>
    obtain rfl : asker = actor := asks.1
    exact BySteps.bind (bySteps_modifyGet (.single (.ask target event runs))
      (registerAsk_nests world asker target event))
      fun correlation middle _ nests => ih correlation (asks.2 _) middle (nests.contains runs)
  | invoke target payload next ih =>
    exact BySteps.bind (invoke_bySteps bySteps target payload world) fun result middle _ nests =>
      ih result (asks.2 _) middle (nests.contains runs)
  | remember memory next ih =>
    exact BySteps.bind (bySteps_modify (.single (.remember world actor memory))
      (remember_nests world actor memory))
      fun _ middle _ nests => ih asks.2 middle (nests.contains runs)

/-- A message to an actor that is running starts nobody. -/
lemma post_eq_of_runs (engine : Engine) {target : Id} (message : Message)
    (runs : world.running.contains target) : engine.post target message world =
      .ok (world.post target message).1 (world.post target message).2 := by
  rw [Engine.post, Run.get_bind, runs]
  refine (Run.modifyGet_bind _ _ _).trans ?_
  cases world.post target message with
  | mk result after => cases result <;> rfl

/-- A pass that writes to the store, and tells only actors that run, returns without calling upon
anyone. -/
lemma runPass_storeFrames (engine : Engine) {pass : Pass α} {told : Id → Prop}
    (tells : pass.Only (Request.WritesOrTells told))
    (runs : ∀ target, told target → world.running.contains target) :
    ∃ result after,
      engine.runPass actor pass world = .ok result after ∧ world.StoreFrame after := by
  induction pass generalizing world with
  | done result => exact ⟨result, world, rfl, .refl world⟩
  | execute op next ih =>
    have storeFrame := world.write_storeFrame op
    have still : ∀ target, told target → (world.write op).2.running.contains target :=
      fun target mem => storeFrame.running ▸ runs target mem
    obtain ⟨result, after, ran, rest⟩ := ih (world.write op).1 (tells.2 _) still
    exact ⟨result, after, ran, storeFrame.trans rest⟩
  | deliver target message next ih =>
    have storeFrame := world.post_storeFrame target message
    have still : ∀ target', told target' → (world.post target message).2.running.contains target' :=
      fun target' mem => storeFrame.running ▸ runs target' mem
    have posted := post_eq_of_runs engine message (runs target tells.1)
    obtain ⟨result, after, ran, rest⟩ := ih _ (tells.2 _) still
    exact ⟨result, after, (Run.bind_of_ok posted).trans ran, storeFrame.trans rest⟩
  | _ => exact tells.1.elim

/-! ## Entries -/

lemma applyMutation_bySteps (bySteps : engine.BySteps) (actor : Id) (entry : Entry) (payload : Json)
    (world : World) : World.BySteps (engine.applyMutation actor entry payload) world := by
  unfold applyMutation
  extract_lets report
  have report_bySteps : ∀ outcome middle, World.BySteps (report outcome) middle := by
    intro outcome middle
    unfold report
    split
    · exact BySteps.bind (post_bySteps bySteps _ _ middle) fun _ _ _ _ => bySteps_pure _ _
    · exact bySteps_pure _ _
  split
  · exact bySteps_pure_bind (report_bySteps _ world)
  · rename_i op _
    exact BySteps.bind
      (bySteps_modifyGet (.single (.write world op)) (world.write_storeFrame op).nests)
      fun outcome middle _ _ => bySteps_pure_bind (report_bySteps _ middle)

lemma acceptReply_nests (world : World) (actor message : Id) (entry : Entry) :
    world.Nests (world.acceptReply actor message entry).2 := by
  rcases world.acceptReply_cases actor message entry with
    same | ⟨correlation, ask, -, -, -, -, done⟩
  · rw [same]
    exact .refl world
  · rw [done]
    exact .of_running rfl (List.suffix_cons _ _) rfl rfl rfl

variable {running current : Running} {message : Id} {entry : Entry}

lemma dispatch_bySteps (bySteps : engine.BySteps) (payload : Json)
    (handles : world.Handles current actor message entry)
    (same : current.config = running.config)
    (validates : world.Validates ⟨actor, running.config⟩ message entry) :
    World.BySteps (engine.dispatch actor running message entry payload) world := by
  refine bySteps_get ?_
  dsimp only
  split
  · exact BySteps.bind (applyMutation_bySteps bySteps _ _ _ world) fun _ _ _ _ => bySteps_pure _ _
  · rename_i event
    refine BySteps.bind (bySteps_modifyGet (.single (.accept handles (same ▸ validates) event))
      (acceptReply_nests world _ _ _)) fun accepted middle _ nests => ?_
    split
    · have runs : middle.running.contains actor :=
        nests.contains (Option.isSome_iff_exists.2 ⟨current, handles.found⟩)
      exact BySteps.bind (runPass_bySteps bySteps _
        (running.behavior.send_asksAs ⟨actor, running.config⟩ _ _) middle runs)
        fun _ _ _ _ => bySteps_pure _ _
    · exact bySteps_pure _ _

lemma mark_bySteps (handles : world.Handles current actor message entry) :
    World.BySteps (modify fun world => world.mark message) world :=
  bySteps_modify (.single (.mark handles)) (mark_storeFrame world message).nests

lemma handleEntry_bySteps (bySteps : engine.BySteps)
    (handles : world.Handles current actor message entry)
    (same : current.config = running.config) :
    World.BySteps (engine.handleEntry actor running message entry) world := by
  refine bySteps_get ?_
  dsimp only
  split
  · exact bySteps_pure_bind (BySteps.bind (mark_bySteps handles) fun _ _ _ _ => bySteps_pure _ _)
  · rename_i payload valid
    refine BySteps.bind (dispatch_bySteps bySteps payload handles same ⟨payload, valid⟩)
      fun rerender middle _ nests => ?_
    obtain ⟨_, handles⟩ := handles.nests nests
    exact BySteps.bind (mark_bySteps handles) fun _ _ _ _ => bySteps_pure _ _

/-! ## Turns of the queue -/

/-- What happens around the time that an actor is busy leaves alone what it has to, if what
happens meanwhile does. -/
lemma nests_around {busy after : World}
    (others : ∀ other, other ≠ actor →
      busy.running.find? other = world.running.find? other)
    (own : ∀ old, world.running.find? actor = some old → old.activity = .idle ∧
      ∃ new, busy.running.find? actor = some new ∧ new.config = old.config ∧
        new.behavior = old.behavior ∧ new.subscription = old.subscription)
    (journal : world.journal <:+ busy.journal) (config : busy.config = world.config)
    (schemas : busy.schemas = world.schemas) (pumping : busy.pumping = world.pumping)
    (nests : busy.Nests after) : world.Nests (after.turnTo actor .idle) where
  kept other old found := by
    by_cases same : other = actor
    · subst same
      obtain ⟨idle, new, there, eqs⟩ := own old found
      obtain ⟨last, there, kept⟩ := nests.kept other new there
      refine ⟨{ last with activity := .idle }, ?_, ?_⟩
      · rw [turnTo, find?_updateRunning, if_pos rfl, there]
        rfl
      · exact ⟨kept.config.trans eqs.1, kept.behavior.trans eqs.2.1,
          kept.subscription.trans eqs.2.2, idle.symm, fun busy => absurd idle busy⟩
    · obtain ⟨new, there, kept⟩ := nests.kept other old (others other same ▸ found)
      refine ⟨new, ?_, kept⟩
      rwa [turnTo, find?_updateRunning, if_neg (Ne.symm same)]
  fresh other new stopped found := by
    obtain ⟨last, there, eq⟩ := find?_updateRunning_some found
    by_cases same : actor = other
    · rw [if_pos same] at eq
      rw [eq]
    · rw [if_neg same] at eq
      rw [eq]
      exact nests.fresh other last (by rwa [others other (Ne.symm same)]) there
  journal := by
    rw [turnTo, updateRunning_journal]
    exact journal.trans nests.journal
  config := by rw [turnTo, updateRunning_config, nests.config, config]
  schemas := by rw [turnTo, updateRunning_schemas, nests.schemas, schemas]
  pumping := by rw [turnTo, updateRunning_pumping, nests.pumping, pumping]

/-- The handling of the next entry of an actor, spelt out. -/
lemma handleNext_eq (engine : Engine) (id : Id) (world : World) :
    engine.handleNext id world =
      match world.running.find? id with
      | none => .ok none world
      | some running =>
        if running.activity ≠ .idle then .error .deadlock world
        else match world.store.read running.config.inbox with
          | none => .ok none world
          | some inbox =>
            let listed := Inbox.entries inbox
            let (taken, after) := world.pick id running listed
            match taken with
            | none => .ok none after
            | some (position, message, entry) =>
              match engine.handleEntry id running message entry
                  (after.turnTo id (.handling listed.length)) with
              | .ok rerender after =>
                .ok (some rerender) (if position + 1 < listed.length
                  then (after.turnTo id .idle).schedule id else after.turnTo id .idle)
              | .error halt after => .error halt (after.turnTo id .idle) := by
  rw [handleNext, Run.get_bind]
  cases world.running.find? id with
  | none => rfl
  | some running =>
    dsimp only
    split
    · rfl
    · dsimp only [pure]
      cases world.store.read running.config.inbox with
      | none => rfl
      | some inbox =>
        refine (Run.modifyGet_bind _ _ _).trans ?_
        dsimp only
        obtain ⟨taken, after⟩ := world.pick id running (Inbox.entries inbox)
        cases taken with
        | none => rfl
        | some taken =>
          obtain ⟨position, message, entry⟩ := taken
          simp only [bind, EStateM.bind, whileBusy]
          cases engine.handleEntry id running message entry
              (after.turnTo id (.handling (Inbox.entries inbox).length)) with
          | ok rerender after =>
            dsimp only
            split <;> rfl
          | error halt after => rfl

/-- How the turn of an actor goes, if it ends in a result. -/
inductive Turn (engine : Engine) (actor : Id) (world : World) :
    EStateM.Result Halt World (Option Bool) → Prop
  /-- The actor does not run. -/
  | stopped (stopped : world.running.find? actor = none) : Turn engine actor world (.ok none world)
  /-- The actor is busy. -/
  | busy {running : Running} (found : world.running.find? actor = some running)
    (busy : running.activity ≠ .idle) : Turn engine actor world (.error .deadlock world)
  /-- Its inbox cannot be read. -/
  | unread {running : Running} (found : world.running.find? actor = some running)
    (idle : running.activity = .idle) (unread : world.store.read running.config.inbox = none) :
    Turn engine actor world (.ok none world)
  /-- There is no entry to handle. -/
  | passed {running : Running} {inbox : Json} (found : world.running.find? actor = some running)
    (idle : running.activity = .idle)
    (read : world.store.read running.config.inbox = some inbox)
    (nothing : (world.pick actor running (Inbox.entries inbox)).1 = none) :
    Turn engine actor world (.ok none (world.pick actor running (Inbox.entries inbox)).2)
  /-- The next entry is handled, -/
  | handled {running : Running} {inbox : Json} {position : Nat} {message : Id} {entry : Entry}
    {rerender : Bool} {last : World} (found : world.running.find? actor = some running)
    (idle : running.activity = .idle)
    (read : world.store.read running.config.inbox = some inbox)
    (picked : (world.pick actor running (Inbox.entries inbox)).1 = some (position, message, entry))
    (handled : engine.handleEntry actor running message entry
      ((world.pick actor running (Inbox.entries inbox)).2.turnTo actor
        (.handling (Inbox.entries inbox).length)) = .ok rerender last) :
    Turn engine actor world (.ok (some rerender) (if position + 1 < (Inbox.entries inbox).length
      then (last.turnTo actor .idle).schedule actor else last.turnTo actor .idle))
  /-- or its handling is halted. -/
  | halted {running : Running} {inbox : Json} {position : Nat} {message : Id} {entry : Entry}
    {halt : Halt} {last : World} (found : world.running.find? actor = some running)
    (idle : running.activity = .idle)
    (read : world.store.read running.config.inbox = some inbox)
    (picked : (world.pick actor running (Inbox.entries inbox)).1 = some (position, message, entry))
    (halted : engine.handleEntry actor running message entry
      ((world.pick actor running (Inbox.entries inbox)).2.turnTo actor
        (.handling (Inbox.entries inbox).length)) = .error halt last) :
    Turn engine actor world (.error halt (last.turnTo actor .idle))

/-- The turn of an actor goes in one of these ways. -/
lemma handleNext_turn (engine : Engine) (actor : Id) (world : World) :
    engine.Turn actor world (engine.handleNext actor world) := by
  rw [handleNext_eq]
  cases found : world.running.find? actor with
  | none => exact .stopped found
  | some running =>
    dsimp only
    by_cases idle : running.activity = .idle
    · rw [if_neg (not_not.2 idle)]
      cases read : world.store.read running.config.inbox with
      | none => exact .unread found idle read
      | some inbox =>
        dsimp only
        cases picked : (world.pick actor running (Inbox.entries inbox)).1 with
        | none => exact .passed found idle read picked
        | some taken =>
          obtain ⟨position, message, entry⟩ := taken
          dsimp only
          cases ended : engine.handleEntry actor running message entry
              ((world.pick actor running (Inbox.entries inbox)).2.turnTo actor
                (.handling (Inbox.entries inbox).length)) with
          | ok rerender last => exact .handled found idle read picked ended
          | error halt last => exact .halted found idle read picked ended
    · rw [if_pos idle]
      exact .busy found idle

/-- An actor that has picked an entry is busy with it. -/
lemma pick_handles {ready : ReadyQueue} {listed : List Id} {position : Nat} (count : Nat)
    (found : world.running.find? actor = some running)
    (some : (pick { world with ready } actor running listed).1 = some (position, message, entry)) :
    ((pick { world with ready } actor running listed).2.turnTo actor (.handling count)).Handles
      { running with cursor := position + 1, activity := .handling count } actor message
      entry := by
  rw [pick_fst] at some
  have spec := Inbox.look_spec world.store running.cursor (listed.drop running.cursor)
  obtain ⟨-, -, -, -, cursor⟩ := spec.next position message entry some
  refine ⟨?_, ⟨count, rfl⟩, position, rfl, ?_⟩
  · rw [turnTo, find?_updateRunning, if_pos rfl, find?_pick, if_pos rfl, found]
    simp only [Option.map_some, lookFor, cursor]
  · rw [turnTo, updateRunning_journal, pick_journal]
    exact List.mem_append_left _ (taken_mem_lookNotes some)

lemma pick_nests (ready : ReadyQueue) (listed : List Id)
    (found : world.running.find? actor = some running) (idle : running.activity = .idle) :
    world.Nests (pick { world with ready } actor running listed).2 := by
  rw [pick_eq]
  have popped : world.Nests { world with ready } :=
    .of_running rfl (List.suffix_refl _) rfl rfl rfl
  refine (popped.trans (updateRunning_nests fun old there => ?_)).trans
    (.of_running rfl (List.suffix_append_of_suffix ?_) rfl rfl rfl)
  · obtain rfl : running = old := Option.some.inj (found.symm.trans there)
    exact ⟨rfl, rfl, rfl, rfl, fun busy => absurd idle busy⟩
  · simp

/-- What happens from the time that an actor picks an entry until it is idle again leaves alone
what it has to. -/
lemma pick_around (ready : ReadyQueue) (listed : List Id) (count : Nat) {last : World}
    (found : world.running.find? actor = some running) (idle : running.activity = .idle)
    (nests : ((pick { world with ready } actor running listed).2.turnTo actor
      (.handling count)).Nests last) : world.Nests (last.turnTo actor .idle) := by
  refine nests_around (fun other ne => ?_) (fun old there => ?_) ?_ ?_ ?_ ?_ nests
  · rw [turnTo, find?_updateRunning, if_neg (Ne.symm ne), find?_pick, if_neg (Ne.symm ne)]
  · obtain rfl : running = old := Option.some.inj (found.symm.trans there)
    refine ⟨idle, ?_⟩
    rw [turnTo, find?_updateRunning, if_pos rfl, find?_pick, if_pos rfl, found]
    exact ⟨_, rfl, rfl, rfl, rfl⟩
  · rw [turnTo, updateRunning_journal, pick_journal]
    exact List.suffix_append _ _
  · rw [turnTo, updateRunning_config, pick_frame]
  · rw [turnTo, updateRunning_schemas, pick_frame]
  · rw [turnTo, updateRunning_pumping, pick_frame]

/-- A step takes the actor from the queue and an entry from its inbox. -/
lemma take_step {ready : ReadyQueue} {inbox : Json} {taken : Nat × Id × Entry}
    (next : world.ready.pop? = some (actor, ready))
    (found : world.running.find? actor = some running) (idle : running.activity = .idle)
    (read : world.store.read running.config.inbox = some inbox)
    (picked : (pick { world with ready } actor running (Inbox.entries inbox)).1 = some taken) :
    Step world ((pick { world with ready } actor running (Inbox.entries inbox)).2.turnTo actor
      (.handling (Inbox.entries inbox).length)) := by
  have listed := Inbox.listed_of_read read
  have step := Step.take next found idle (by rwa [listed])
  rwa [listed] at step

/-- With the step that takes its actor from the queue, the handling of an entry goes by steps. -/
theorem handleNext_bySteps (bySteps : engine.BySteps) {ready : ReadyQueue}
    (next : world.ready.pop? = some (actor, ready)) :
    world.Ends (engine.handleNext actor { world with ready }) := by
  have popped : world.Nests { world with ready } :=
    .of_running rfl (List.suffix_refl _) rfl rfl rfl
  have turn := engine.handleNext_turn actor { world with ready }
  generalize engine.handleNext actor { world with ready } = result at turn ⊢
  cases turn with
  | stopped stopped =>
    refine ⟨.single (.skip next fun running found => ?_), popped⟩
    cases stopped.symm.trans found
  | busy found busy => exact ⟨.single (.jam next found busy), popped, fun ne => absurd rfl ne⟩
  | unread found idle unread =>
    refine ⟨.single (.skip next fun other there => ?_), popped⟩
    cases Option.some.inj (found.symm.trans there)
    exact ⟨idle, unread⟩
  | passed found idle read nothing =>
    have listed := Inbox.listed_of_read read
    have step := Step.pass next found idle (by rwa [listed])
    rw [listed] at step
    exact ⟨.single step, pick_nests ready _ found idle⟩
  | @handled running inbox position message entry rerender last found idle read picked handled =>
    have handles := pick_handles (Inbox.entries inbox).length found picked
    obtain ⟨steps, nests⟩ := (handleEntry_bySteps bySteps handles rfl).ok handled
    obtain ⟨current, there, kept⟩ := nests.kept actor _ handles.found
    have finish := Step.finish there kept.activity
    rw [kept.cursor (by simp)] at finish
    refine ⟨(ReflTransGen.head (take_step next found idle read picked) steps).tail finish, ?_⟩
    -- the actor is busy only inside its turn, so from outside nothing has changed with it
    have around : world.Nests (last.turnTo actor .idle) :=
      pick_around ready (Inbox.entries inbox) _ found idle nests
    split
    · exact around.trans (schedule_storeFrame _ actor).nests
    · exact around
  | @halted running inbox position message entry halt last found idle read picked halted =>
    have handles := pick_handles (Inbox.entries inbox).length found picked
    obtain ⟨stepsOrBreaks, nests, breaks⟩ := (handleEntry_bySteps bySteps handles rfl).error halted
    obtain ⟨current, there, kept⟩ := nests.kept actor _ handles.found
    have step := take_step next found idle read picked
    refine ⟨(ReflTransGen.head (.step step) stepsOrBreaks).tail (.breakOff there ?_),
      pick_around ready _ _ found idle nests, fun ne => ?_⟩
    · simp [kept.activity]
    · exact ((breaks ne).head (.single step)).tail (.turnTo last actor .idle)

lemma rerender_bySteps (bySteps : engine.BySteps) (actor : Id) (world : World) :
    World.BySteps (engine.rerender actor) world := by
  refine bySteps_get ?_
  split
  · exact bySteps_pure _ _
  · rename_i script _
    have noted : World.BySteps
        (set { world with rerenders := world.rerenders ++ [(actor, world.currentState? actor)] }
          : Run PUnit) world :=
      ⟨.single (.render world _), .of_running rfl (List.suffix_refl _) rfl rfl rfl⟩
    exact BySteps.bind noted fun _ middle _ _ => runScript_bySteps bySteps (script actor) middle

lemma drain_bySteps (bySteps : engine.BySteps) {ready : ReadyQueue}
    (next : world.ready.pop? = some (actor, ready)) :
    world.Ends (engine.drain actor { world with ready }) := by
  refine Ends.bind (handleNext_bySteps bySteps next) fun rerender middle _ _ => ?_
  cases rerender with
  | none => exact bySteps_pure _ _
  | some rerender =>
    dsimp only
    split
    · exact BySteps.bind (rerender_bySteps bySteps actor middle) fun _ _ _ _ => bySteps_pure _ _
    · exact bySteps_pure _ _

lemma drainAll_bySteps (bySteps : engine.BySteps) (rounds handled : Nat) (world : World) :
    World.BySteps (engine.drainAll rounds handled) world := by
  induction rounds generalizing handled world with
  | zero => exact bySteps_throw _ _
  | succ rounds ih =>
    refine bySteps_get ?_
    split
    · exact bySteps_pure _ _
    · rename_i actor ready next
      have ends := Ends.bind (drain_bySteps bySteps next) fun did middle _ _ =>
        ih (if did then handled + 1 else handled) middle
      exact ends

lemma pumpWith_bySteps (bySteps : engine.BySteps) (rounds : Nat) (world : World) :
    World.BySteps (engine.pumpWith rounds) world := by
  rw [World.BySteps, pumpWith]
  split
  · exact ⟨.refl, .refl world⟩
  · rename_i quiet
    have begin_ : Step world { world with pumping := true } := .pump world true
    have around : ∀ last, { world with pumping := true }.Nests last →
        world.Nests { last with pumping := false } := fun last nests =>
      ⟨nests.kept, nests.fresh, nests.journal, nests.config, nests.schemas,
        (Bool.eq_false_iff.2 quiet).symm⟩
    have bySteps := drainAll_bySteps bySteps rounds 0 { world with pumping := true }
    cases ended : engine.drainAll rounds 0 { world with pumping := true } with
    | ok handled last =>
      obtain ⟨steps, nests⟩ := bySteps.ok ended
      exact ⟨(ReflTransGen.head begin_ steps).tail (.pump last false), around last nests⟩
    | error halt last =>
      obtain ⟨stepsOrBreaks, nests, breaks⟩ := bySteps.error ended
      exact ⟨(ReflTransGen.head (.step begin_) stepsOrBreaks).tail (.step (.pump last false)),
        around last nests, fun ne => ((breaks ne).head (.single begin_)).tail (.pump last false)⟩

/-! ## Starting -/

/-- What happens from the time that an actor is entered until it has started leaves alone what
it has to. -/
lemma enlist_around {config : ActorConfig} {behavior : Behavior} {last : World}
    (stopped : world.running.contains actor = false)
    (nests : ((world.enlist actor config behavior).turnTo actor .starting).Nests last) :
    world.Nests (last.turnTo actor .idle) := by
  have none : world.running.find? actor = none := by
    simpa [Table.contains] using stopped
  refine nests_around (fun other ne => ?_) (fun old there => ?_) ?_ ?_ ?_ ?_ nests
  · rw [turnTo, find?_updateRunning, if_neg (Ne.symm ne), enlist]
    dsimp only
    rw [Table.find?_insert, if_neg (Ne.symm ne)]
  · rw [none] at there
    cases there
  · rw [turnTo, updateRunning_journal]
    exact List.suffix_cons _ _
  all_goals simp [turnTo, enlist]

/-- The start of an actor, spelt out. -/
lemma spawnWith_eq (engine : Engine) (id : Id) (world : World) :
    engine.spawnWith id world =
      if world.running.contains id then .ok (.ok ()) world
      else match world.actorConfig id with
        | .error error => .ok (.error error) world
        | .ok config =>
          match Behavior.load config.behavior world.config with
          | .error cause => .ok (.error (.config cause)) world
          | .ok behavior =>
            match engine.runPass id (behavior.start ⟨id, config⟩ behavior.initialMemory)
                ((world.enlist id config behavior).turnTo id .starting) with
            | .ok () after => .ok (.ok ()) ((after.turnTo id .idle).schedule id)
            | .error halt after => .error halt (after.turnTo id .idle) := by
  rw [spawnWith, Run.get_bind]
  split
  · rfl
  · cases world.actorConfig id with
    | error error => rfl
    | ok config =>
      dsimp only
      cases Behavior.load config.behavior world.config with
      | error cause => rfl
      | ok behavior =>
        refine (Run.set_bind _ _ _).trans ?_
        simp only [bind, EStateM.bind, whileBusy]
        cases engine.runPass id (behavior.start ⟨id, config⟩ behavior.initialMemory)
          ((world.enlist id config behavior).turnTo id .starting) <;> rfl

/-- A start whose record is accepted is its start pass, and then the actor is queued. -/
lemma spawnWith_of_record (engine : Engine) {config : ActorConfig} {behavior : Behavior}
    (stopped : world.running.contains actor = false)
    (recorded : world.actorConfig actor = .ok config)
    (loaded : Behavior.load config.behavior world.config = .ok behavior) :
    engine.spawnWith actor world =
      match engine.runPass actor (behavior.start ⟨actor, config⟩ behavior.initialMemory)
          ((world.enlist actor config behavior).turnTo actor .starting) with
      | .ok () after => .ok (.ok ()) ((after.turnTo actor .idle).schedule actor)
      | .error halt after => .error halt (after.turnTo actor .idle) := by
  have started := spawnWith_eq engine actor world
  rw [if_neg (by simp [stopped]), recorded] at started
  dsimp only at started
  rw [loaded] at started
  exact started

/-- How the start of an actor goes, if it ends in a result. -/
inductive Startup (engine : Engine) (id : Id) (world : World) :
    EStateM.Result Halt World (Except RuntimeError Unit) → Prop
  /-- The actor runs already. -/
  | running (runs : world.running.contains id = true) : Startup engine id world (.ok (.ok ()) world)
  /-- Its record is missing or malformed. -/
  | unrecorded {error : RuntimeError} (stopped : world.running.contains id = false)
    (record : world.actorConfig id = .error error) :
    Startup engine id world (.ok (.error error) world)
  /-- Its behavior cannot be loaded. -/
  | unloaded {config : ActorConfig} {cause : ConfigError}
    (stopped : world.running.contains id = false) (record : world.actorConfig id = .ok config)
    (unloaded : Behavior.load config.behavior world.config = .error cause) :
    Startup engine id world (.ok (.error (.config cause)) world)
  /-- It is entered among those that run, and its start pass is run, -/
  | passed {config : ActorConfig} {behavior : Behavior} {last : World}
    (stopped : world.running.contains id = false) (record : world.actorConfig id = .ok config)
    (loaded : Behavior.load config.behavior world.config = .ok behavior)
    (passed : engine.runPass id (behavior.start ⟨id, config⟩ behavior.initialMemory)
      ((world.enlist id config behavior).turnTo id .starting) = .ok () last) :
    Startup engine id world (.ok (.ok ()) ((last.turnTo id .idle).schedule id))
  /-- or halted. -/
  | halted {config : ActorConfig} {behavior : Behavior} {halt : Halt} {last : World}
    (stopped : world.running.contains id = false) (record : world.actorConfig id = .ok config)
    (loaded : Behavior.load config.behavior world.config = .ok behavior)
    (halted : engine.runPass id (behavior.start ⟨id, config⟩ behavior.initialMemory)
      ((world.enlist id config behavior).turnTo id .starting) = .error halt last) :
    Startup engine id world (.error halt (last.turnTo id .idle))

/-- The start of an actor goes in one of these ways. -/
lemma spawnWith_startup (engine : Engine) (id : Id) (world : World) :
    engine.Startup id world (engine.spawnWith id world) := by
  rw [spawnWith_eq]
  split
  · exact .running ‹_›
  · rename_i stopped
    replace stopped := Bool.eq_false_iff.2 stopped
    cases record : world.actorConfig id with
    | error error => exact .unrecorded stopped record
    | ok config =>
      dsimp only
      cases loaded : Behavior.load config.behavior world.config with
      | error cause => exact .unloaded stopped record loaded
      | ok behavior =>
        dsimp only
        cases ended : engine.runPass id (behavior.start ⟨id, config⟩ behavior.initialMemory)
            ((world.enlist id config behavior).turnTo id .starting) with
        | ok result last => exact .passed stopped record loaded ended
        | error halt last => exact .halted stopped record loaded ended

/-- An actor that is started. -/
lemma enlist_found (world : World) (id : Id) (config : ActorConfig) (behavior : Behavior) :
    ((world.enlist id config behavior).turnTo id .starting).running.find? id = some
      { config, behavior, memory := behavior.initialMemory,
        subscription := world.store.nextToken, activity := .starting } := by
  rw [turnTo, find?_updateRunning, if_pos rfl, World.enlist]
  dsimp only
  rw [Table.find?_insert, if_pos rfl]
  rfl

/-- A start pass goes by steps. -/
lemma start_bySteps (bySteps : engine.BySteps) (id : Id) (config : ActorConfig)
    (behavior : Behavior) (world : World) :
    World.BySteps (engine.runPass id (behavior.start ⟨id, config⟩ behavior.initialMemory))
      ((world.enlist id config behavior).turnTo id .starting) :=
  runPass_bySteps bySteps _ (behavior.start_asksAs ⟨id, config⟩ behavior.initialMemory) _
    (Option.isSome_iff_exists.2 ⟨_, enlist_found world id config behavior⟩)

lemma spawnWith_bySteps (bySteps : engine.BySteps) (id : Id) (world : World) :
    World.BySteps (engine.spawnWith id) world := by
  have startup := engine.spawnWith_startup id world
  rw [World.BySteps]
  generalize engine.spawnWith id world = result at startup ⊢
  cases startup with
  | running | unrecorded | unloaded => exact ⟨.refl, .refl world⟩
  | @passed config behavior last stopped record loaded passed =>
    obtain ⟨steps, nests⟩ := (start_bySteps bySteps id config behavior world).ok passed
    obtain ⟨current, there, kept⟩ := nests.kept id _ (enlist_found world id config behavior)
    have started := Step.started there kept.activity
    exact ⟨(ReflTransGen.head (.enlist stopped record loaded) steps).tail started,
      (enlist_around stopped nests).trans (schedule_storeFrame _ id).nests⟩
  | @halted config behavior halt last stopped record loaded halted =>
    have enlist := Step.enlist stopped record loaded
    obtain ⟨stepsOrBreaks, nests, breaks⟩ :=
      (start_bySteps bySteps id config behavior world).error halted
    obtain ⟨current, there, kept⟩ := nests.kept id _ (enlist_found world id config behavior)
    refine ⟨(ReflTransGen.head (.step enlist) stepsOrBreaks).tail (.breakOff there ?_),
      enlist_around stopped nests, fun ne => ?_⟩
    · simp [kept.activity]
    · exact ((breaks ne).head (.single enlist)).tail (.turnTo last id .idle)

end Engine

/-- Starting an actor and pumping go by steps, however deep they nest. -/
theorem engine_bySteps (depth : Nat) : (engine depth).BySteps := by
  induction depth with
  | zero => exact ⟨fun id world => World.bySteps_throw _ _, fun world => World.bySteps_throw _ _⟩
  | succ depth ih =>
    refine ⟨fun id world => ?_, fun world => ?_⟩
    · change World.BySteps (Engine.spawnAt (depth + 1) id) world
      rw [Engine.spawnAt]
      exact Engine.spawnWith_bySteps ih id world
    · change World.BySteps (Engine.pumpAt (depth + 1)) world
      rw [Engine.pumpAt]
      exact Engine.pumpWith_bySteps ih (depth + 1) world

end Troupe
