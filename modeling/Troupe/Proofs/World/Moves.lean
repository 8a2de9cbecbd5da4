import Troupe.Proofs.Table
import Troupe.Proofs.World.Runs

/-!
# Sessions go by moves

Whatever is done to a runtime from outside takes it from state to state by steps, breaks and
orders, and between two commands no actor is busy.  So an invariant of steps, breaks and orders
holds in every session (`Session.moves`), and one of steps and orders holds wherever a runtime
is quiet (`Quiet.calm`).

That the timing out of asks needs no more than these rests on an invariant of its own: who
waits for an answer is running (`World.AskersRun`).
-/

namespace Troupe

open Relation

namespace World

variable {α β : Type} {world before middle after : World} {actor : Id}

/-- A step or an order. -/
def CalmMove (before after : World) : Prop := Step before after ∨ Order before after

/-- A step, a call that breaks off, or an order. -/
def Move (before after : World) : Prop := StepOrBreak before after ∨ Order before after

/-- Any number of steps and orders. -/
abbrev Calm : World → World → Prop := ReflTransGen CalmMove

/-- Any number of steps, breaks and orders. -/
abbrev Moves : World → World → Prop := ReflTransGen Move

lemma CalmMove.move (move : CalmMove before after) : Move before after := move.imp_left .step

lemma Calm.moves (calm : Calm before after) : Moves before after :=
  ReflTransGen.mono (fun _ _ => CalmMove.move) _ _ calm

lemma Steps.calm (steps : Steps before after) : Calm before after :=
  ReflTransGen.mono (fun _ _ => Or.inl) _ _ steps

lemma StepsOrBreaks.moves (stepsOrBreaks : StepsOrBreaks before after) : Moves before after :=
  ReflTransGen.mono (fun _ _ => Or.inl) _ _ stepsOrBreaks

lemma Steps.moves (steps : Steps before after) : Moves before after :=
  StepsOrBreaks.moves (Steps.stepsOrBreaks steps)

/-- Beginning anew over a saved store. -/
lemma restore?_some {config : Config} (restored : world.restore? config = some after) :
    ∃ store, world.store.reload? = some store ∧
      after = { new config store world.correlations world.clock with
        journal := .restored :: world.journal } := by
  unfold restore? at restored
  rw [Option.bind_eq_bind, Option.bind_eq_some_iff] at restored
  obtain ⟨store, read, eq⟩ := restored
  exact ⟨store, read, (Option.some.inj eq).symm⟩

/-! ## Who waits is running -/

/-- Everyone who waits for an answer, or whose ask has timed out, is running. -/
structure AskersRun (world : World) : Prop where
  /-- Who waits for an answer. -/
  pending : ∀ correlation ask, world.pending.find? correlation = some ask →
    world.running.contains ask.asker
  /-- Whose ask has timed out. -/
  expired : ∀ correlation ask, world.expired.find? correlation = some ask →
    world.running.contains ask.asker

lemma contains_updateRunning (world : World) (actor other : Id) (change : Running → Running) :
    (world.updateRunning actor change).running.contains other = world.running.contains other := by
  unfold Table.contains
  rw [find?_updateRunning]
  split
  · exact Option.isSome_map
  · rfl

namespace AskersRun

/-- Nobody waits at first. -/
lemma first (config : Config) (store : Store) (correlations : Supply) (clock : Clock) :
    (World.new config store correlations clock).AskersRun where
  pending _ _ found := by cases found
  expired _ _ found := by cases found

/-- Nobody who runs stops, and nobody else asks. -/
lemma of_tables (askers : before.AskersRun)
    (running : ∀ actor, before.running.contains actor → after.running.contains actor)
    (pending : ∀ correlation ask, after.pending.find? correlation = some ask →
      before.pending.find? correlation = some ask ∨ after.running.contains ask.asker)
    (expired : ∀ correlation ask, after.expired.find? correlation = some ask →
      before.expired.find? correlation = some ask ∨ after.running.contains ask.asker) :
    after.AskersRun where
  pending correlation ask found :=
    (pending correlation ask found).elim (fun there => running _ (askers.pending _ _ there)) id
  expired correlation ask found :=
    (expired correlation ask found).elim (fun there => running _ (askers.expired _ _ there)) id

/-- The asks stay, and nobody who runs stops. -/
lemma of_eq (askers : before.AskersRun)
    (running : ∀ actor, before.running.contains actor → after.running.contains actor)
    (pending : after.pending = before.pending) (expired : after.expired = before.expired) :
    after.AskersRun :=
  askers.of_tables running (fun _ _ found => .inl (pending ▸ found))
    fun _ _ found => .inl (expired ▸ found)

lemma storeFrame (storeFrame : before.StoreFrame after) (askers : before.AskersRun) :
    after.AskersRun :=
  askers.of_eq (fun _ runs => by rwa [storeFrame.running]) storeFrame.pending storeFrame.expired

lemma turnTo (askers : before.AskersRun) (activity : Activity) :
    (before.turnTo actor activity).AskersRun :=
  askers.of_eq (fun _ runs => by rwa [World.turnTo, contains_updateRunning])
    (updateRunning_pending _ _ _) (updateRunning_expired _ _ _)

lemma pick (askers : before.AskersRun) (ready : ReadyQueue) (running : Running)
    (listed : List Id) : (World.pick { before with ready } actor running listed).2.AskersRun := by
  rw [pick_eq]
  refine askers.of_eq (fun other runs => ?_) (updateRunning_pending _ _ _)
    (updateRunning_expired _ _ _)
  exact (contains_updateRunning _ _ _ _).trans runs

lemma step (step : Step before after) (askers : before.AskersRun) : after.AskersRun := by
  cases step with
  | write op => exact askers.storeFrame (before.write_storeFrame op)
  | post target message => exact askers.storeFrame (before.post_storeFrame target message)
  | mark handles => exact askers.storeFrame (before.mark_storeFrame _)
  | tools | render | pump | skip => exact ⟨askers.pending, askers.expired⟩
  | remember actor memory =>
    exact askers.of_eq (fun _ runs => by rwa [World.remember, contains_updateRunning])
      (updateRunning_pending _ _ _) (updateRunning_expired _ _ _)
  | ask target event runs =>
    refine askers.of_tables (fun _ runs => runs) (fun correlation ask found => ?_)
      fun _ _ found => .inl found
    rw [registerAsk, Table.find?_insert] at found
    split at found
    · cases found
      exact .inr runs
    · exact .inl found
  | accept =>
    rcases acceptReply_cases before _ _ _ with same | ⟨correlation, ask, -, -, -, -, done⟩
    · rwa [same]
    · rw [done]
      refine askers.of_tables (fun _ runs => runs) (fun other ask found => ?_)
        fun _ _ found => .inl found
      rw [Table.find?_erase] at found
      split at found
      · cases found
      · exact .inl found
  | pass next found idle none => exact askers.pick _ _ _
  | take next found idle some => exact (askers.pick _ _ _).turnTo _
  | finish found busy =>
    split
    · exact (askers.turnTo _).storeFrame (schedule_storeFrame _ _)
    · exact askers.turnTo _
  | started found busy => exact (askers.turnTo _).storeFrame (schedule_storeFrame _ _)
  | enlist stopped record loaded =>
    refine (askers.of_eq (fun other runs => ?_) rfl rfl : World.AskersRun (World.enlist ..)).turnTo _
    exact Table.contains_insert_of_contains runs

lemma stepOrBreak (stepOrBreak : StepOrBreak before after) (askers : before.AskersRun) :
    after.AskersRun := by
  cases stepOrBreak with
  | step taken => exact askers.step taken
  | breakOff found busy => exact askers.turnTo _
  | jam next found busy => exact ⟨askers.pending, askers.expired⟩

lemma dismiss (askers : before.AskersRun) (running : Running) :
    (before.dismiss actor running).AskersRun := by
  have runs : ∀ asker, before.running.contains asker → asker ≠ actor →
      (before.dismiss actor running).running.contains asker := by
    intro asker runs ne
    unfold Table.contains at runs ⊢
    rw [World.dismiss, Table.find?_erase, if_neg (Ne.symm ne)]
    exact runs
  refine ⟨fun correlation ask found => ?_, fun correlation ask found => ?_⟩
  · rw [World.dismiss, Table.find?_filter, Option.filter_eq_some_iff] at found
    exact runs _ (askers.pending _ _ found.1) (by simpa using found.2)
  · rw [World.dismiss, Table.find?_filter, Option.filter_eq_some_iff] at found
    exact runs _ (askers.expired _ _ found.1) (by simpa using found.2)

lemma order (order : Order before after) (askers : before.AskersRun) : after.AskersRun := by
  cases order with
  | makeInbox => exact askers.storeFrame before.makeInbox_storeFrame
  | make value => exact askers.storeFrame (before.make_storeFrame value)
  | own made owner => exact askers.storeFrame (before.own_storeFrame _ owner)
  | schedule actor => exact askers.storeFrame (before.schedule_storeFrame actor)
  | dismiss found idle => exact askers.dismiss _
  | timeOut now =>
    refine askers.of_tables (fun _ runs => runs) (fun _ _ found => ?_) fun _ _ found => ?_
    · rw [World.timeOut, Table.find?_filter, Option.filter_eq_some_iff] at found
      exact .inl found.1
    · rw [World.timeOut, Table.find?_filter, Option.filter_eq_some_iff] at found
      exact .inl found.1
  | track timedOut runs =>
    refine askers.of_tables (fun _ runs => runs) (fun _ _ found => .inl found) fun _ _ found => ?_
    rw [World.track, Table.find?_insert] at found
    split at found
    · cases found
      exact .inr runs
    · exact .inl found
  | unwatch token =>
    obtain ⟨watches, same⟩ := before.unwatch_frame token
    rw [same]
    exact ⟨askers.pending, askers.expired⟩
  | protect | watch | registerSchema | setTools | onRerender | setTime =>
    exact ⟨askers.pending, askers.expired⟩
  | restart config restored =>
    obtain ⟨store, -, rfl⟩ := restore?_some restored
    have askers := first config store before.correlations before.clock
    exact ⟨askers.pending, askers.expired⟩

lemma moves (moves : Moves before after) (askers : before.AskersRun) : after.AskersRun := by
  induction moves with
  | refl => exact askers
  | tail _ move ih => exact move.elim ih.stepOrBreak ih.order

end AskersRun

/-! ## Commands -/

/-- What a command leaves as it should be: no actor is left busy, and what happened stays. -/
structure Settles (before after : World) : Prop where
  /-- If no actor was busy, none is. -/
  idle : before.Idle → after.Idle
  /-- What happened stays. -/
  journal : before.journal <:+ after.journal

protected lemma Settles.refl (world : World) : world.Settles world := ⟨id, List.suffix_refl _⟩

protected lemma Settles.trans (first : before.Settles middle) (second : middle.Settles after) :
    before.Settles after :=
  ⟨fun idle => second.idle (first.idle idle), first.journal.trans second.journal⟩

lemma Nests.settles (nests : before.Nests after) : before.Settles after :=
  ⟨nests.idle, nests.journal⟩

/-- What a command leaves as it should be, and no pump is left under way. -/
structure Leaves (before after : World) : Prop extends Settles before after where
  /-- If queued actors were not being served, they are not. -/
  pumping : before.pumping = false → after.pumping = false

protected lemma Leaves.refl (world : World) : world.Leaves world := ⟨.refl world, id⟩

protected lemma Leaves.trans (first : before.Leaves middle) (second : middle.Leaves after) :
    before.Leaves after :=
  ⟨first.toSettles.trans second.toSettles, fun still => second.pumping (first.pumping still)⟩

lemma Nests.leaves (nests : before.Nests after) : before.Leaves after :=
  ⟨nests.settles, fun still => nests.pumping.trans still⟩

lemma StoreFrame.settles (storeFrame : before.StoreFrame after) : before.Settles after :=
  storeFrame.nests.settles

lemma Order.settles (order : Order before after) : before.Settles after := by
  cases order with
  | makeInbox => exact before.makeInbox_storeFrame.settles
  | make value => exact (before.make_storeFrame value).settles
  | own made owner => exact (before.own_storeFrame _ owner).settles
  | schedule actor => exact (before.schedule_storeFrame actor).settles
  | dismiss found idle =>
    refine ⟨fun idle actor running there => ?_, List.suffix_append_of_suffix (List.suffix_cons _ _)⟩
    rw [World.dismiss, Table.find?_erase] at there
    split at there
    · cases there
    · exact idle actor running there
  | timeOut now => exact ⟨id, List.suffix_append _ _⟩
  | unwatch token =>
    obtain ⟨watches, same⟩ := before.unwatch_frame token
    rw [same]
    exact ⟨id, List.suffix_refl _⟩
  | track | protect | watch | registerSchema | setTools | onRerender | setTime =>
    exact ⟨id, List.suffix_refl _⟩
  | restart config restored =>
    obtain ⟨store, -, rfl⟩ := restore?_some restored
    exact ⟨fun _ actor running there => by simp [World.new] at there, List.suffix_cons _ _⟩

lemma Order.leaves (order : Order before after) : before.Leaves after := by
  refine ⟨order.settles, fun still => ?_⟩
  cases order with
  | makeInbox => exact before.makeInbox_storeFrame.pumping.trans still
  | make value => exact (before.make_storeFrame value).pumping.trans still
  | own made owner => exact (before.own_storeFrame _ owner).pumping.trans still
  | unwatch token =>
    obtain ⟨watches, same⟩ := before.unwatch_frame token
    rwa [same]
  | restart config restored =>
    obtain ⟨store, -, rfl⟩ := restore?_some restored
    rfl
  | _ => exact still

lemma Step.suffix (step : Step before after) : before.journal <:+ after.journal := by
  cases step with
  | write op => exact (before.write_storeFrame op).suffix
  | post target message => exact (before.post_storeFrame target message).suffix
  | mark handles => exact (before.mark_storeFrame _).suffix
  | tools | render | pump | skip => exact List.suffix_refl _
  | remember actor memory => exact (Engine.remember_nests _ _ _).journal
  | ask target event runs => exact (Engine.registerAsk_nests _ _ _ _).journal
  | accept => exact (Engine.acceptReply_nests _ _ _ _).journal
  | pass next found idle none =>
    rw [pick_journal]
    exact List.suffix_append _ _
  | take next found idle some =>
    rw [turnTo, updateRunning_journal, pick_journal]
    exact List.suffix_append _ _
  | @finish actor running listed found busy =>
    have same : (before.turnTo actor .idle).journal = before.journal := updateRunning_journal _ _ _
    split
    · exact same ▸ (schedule_storeFrame _ _).suffix
    · exact same ▸ List.suffix_refl _
  | enlist stopped record loaded =>
    rw [turnTo, updateRunning_journal]
    exact List.suffix_cons _ _
  | @started actor running found busy =>
    have same : (before.turnTo actor .idle).journal = before.journal := updateRunning_journal _ _ _
    exact same ▸ (schedule_storeFrame _ _).suffix

/-- Whatever moves, what happened stays. -/
lemma Move.suffix (move : Move before after) : before.journal <:+ after.journal := by
  rcases move with stepOrBreak | order
  · cases stepOrBreak with
    | step step => exact step.suffix
    | breakOff found busy => exact updateRunning_suffix _ _ _
    | jam next found busy => exact List.suffix_refl _
  · exact order.settles.journal

lemma Moves.suffix (moves : Moves before after) : before.journal <:+ after.journal := by
  induction moves with
  | refl => exact List.suffix_refl _
  | tail _ move ih => exact ih.trans move.suffix

/-- Correlations come from one supply. -/
lemma Step.correlations (step : Step before after) :
    before.correlations.Leads after.correlations := by
  cases step with
  | write op => exact (before.write_storeFrame op).correlations ▸ .refl _
  | post target message => exact (before.post_storeFrame target message).correlations ▸ .refl _
  | mark handles => exact (before.mark_storeFrame _).correlations ▸ .refl _
  | tools | render | pump | skip => exact .refl _
  | remember actor memory => rw [World.remember, updateRunning_correlations]; exact .refl _
  | ask target event runs => exact Supply.leads_advance _
  | accept =>
    rcases acceptReply_cases before _ _ _ with same | ⟨_, _, -, -, -, -, done⟩
    · rw [same]
      exact .refl _
    · rw [done]
      exact .refl _
  | pass next found idle none => rw [pick_frame]; exact .refl _
  | take next found idle some =>
    rw [World.turnTo, updateRunning_correlations, pick_frame]
    exact .refl _
  | finish found busy =>
    split
    · rw [World.schedule, World.turnTo, updateRunning_correlations]
      exact .refl _
    · rw [World.turnTo, updateRunning_correlations]
      exact .refl _
  | enlist stopped record loaded => rw [World.turnTo, updateRunning_correlations]; exact .refl _
  | started found busy => rw [World.schedule, World.turnTo, updateRunning_correlations]; exact .refl _

lemma Order.correlations (order : Order before after) :
    after.correlations = before.correlations := by
  cases order with
  | makeInbox => exact before.makeInbox_storeFrame.correlations
  | make value => exact (before.make_storeFrame value).correlations
  | own made owner => exact (before.own_storeFrame _ owner).correlations
  | unwatch token =>
    obtain ⟨watches, same⟩ := before.unwatch_frame token
    rw [same]
  | restart config restored =>
    obtain ⟨store, -, rfl⟩ := restore?_some restored
    rfl
  | _ => rfl

lemma Moves.correlations (moves : Moves before after) :
    before.correlations.Leads after.correlations := by
  induction moves with
  | refl => exact .refl _
  | tail _ move ih =>
    refine ih.trans ?_
    rcases move with (step | ⟨-, -⟩ | ⟨-, -⟩) | order
    · exact step.correlations
    · rw [turnTo, updateRunning_correlations]
      exact .refl _
    · exact .refl _
    · exact order.correlations ▸ .refl _

/-- A command ends after steps and orders, or after breaks too if it breaks off.  If it breaks off
without a deadlock, steps and orders lead to where it does. -/
def Closes (world : World) : EStateM.Result Halt World α → Prop
  | .ok _ after => Calm world after ∧ world.Leaves after
  | .error halt after => Moves world after ∧ world.Leaves after ∧
    (halt ≠ .deadlock → ∃ broke, Calm world broke ∧ broke.Unwinds after)

lemma Ends.closes {result : EStateM.Result Halt World α} (ends : world.Ends result) :
    world.Closes result := by
  cases result with
  | ok => exact ⟨Steps.calm ends.1, ends.2.leaves⟩
  | error =>
    refine ⟨StepsOrBreaks.moves ends.1, ends.2.1.leaves, fun ne => ?_⟩
    obtain ⟨broke, steps, unwinds⟩ := ends.2.2 ne
    exact ⟨broke, steps.calm, unwinds⟩

lemma closes_ok (result : α) : world.Closes (.ok result world) := ⟨.refl, .refl world⟩

lemma closes_error (halt : Halt) : world.Closes (.error halt world : EStateM.Result _ _ α) :=
  ⟨.refl, .refl world, fun _ => ⟨world, .refl, .refl world⟩⟩

lemma Order.closes (order : Order before after) (result : α) :
    before.Closes (.ok result after) :=
  ⟨.single (.inr order), order.leaves⟩

/-- What follows a command starts where the command ends. -/
lemma Closes.bind {first : Run α} {next : α → Run β} (closes : world.Closes (first world))
    (goesOn : ∀ result middle, first world = .ok result middle → Calm world middle →
      world.Leaves middle → middle.Closes (next result middle)) :
    world.Closes ((first >>= next) world) := by
  cases ran : first world with
  | ok result middle =>
    rw [ran] at closes
    obtain ⟨calm, leaves⟩ := closes
    have rest := goesOn result middle ran calm leaves
    rw [Run.bind_of_ok ran]
    cases ended : next result middle <;> rw [ended] at rest
    · exact ⟨calm.trans rest.1, leaves.trans rest.2⟩
    · refine ⟨calm.moves.trans rest.1, leaves.trans rest.2.1, fun ne => ?_⟩
      obtain ⟨broke, goesOn, unwinds⟩ := rest.2.2 ne
      exact ⟨broke, calm.trans goesOn, unwinds⟩
  | error halt middle =>
    rw [ran] at closes
    rw [Run.bind_of_error ran]
    exact closes

/-- The result of a command does not matter to where it ends. -/
lemma Closes.discard {run : Run α} (closes : world.Closes (run world)) :
    world.Closes ((do let _ ← run : Run Unit) world) :=
  closes.bind fun _ _ _ _ _ => closes_ok ()

lemma post_closes (fuel : Nat) (target : Id) (message : Message) (world : World) :
    world.Closes ((engine fuel).post target message world) :=
  (Engine.post_bySteps (engine_bySteps fuel) target message world : BySteps _ _).closes

lemma deliver_closes (fuel : Nat) (target : Id) (message : Message) (world : World) :
    world.Closes ((engine fuel).deliver target message world) :=
  (Engine.deliver_bySteps (engine_bySteps fuel) target message world : BySteps _ _).closes

lemma pump_closes (fuel : Nat) (world : World) : world.Closes (pump fuel world) :=
  ((engine_bySteps fuel).pump world).closes

lemma spawn_closes (fuel : Nat) (actor : Id) (world : World) :
    world.Closes (spawn fuel actor world) := by
  refine Closes.bind ((engine_bySteps fuel).spawn actor world).closes fun result middle _ _ _ => ?_
  cases result with
  | error error => exact closes_ok _
  | ok done => exact (pump_closes fuel middle).bind fun _ _ _ _ _ => closes_ok _

lemma createActor_closes (spec : ActorSpec) (world : World) :
    world.Closes (createActor spec world) := by
  refine Closes.bind (closes_ok world) fun settings _ got _ _ => ?_
  cases got
  cases Behavior.load spec.behavior world.config with
  | error cause => exact closes_ok _
  | ok behavior =>
    dsimp only
    split
    · exact closes_ok _
    · refine Closes.bind ((Order.makeInbox world).closes _) fun inbox first made _ _ => ?_
      cases made
      have noted : Note.made world.makeInbox.1 ∈ world.makeInbox.2.journal := List.mem_cons_self
      refine Closes.bind ((Order.make _ spec.context).closes _) fun context second _ _ second' => ?_
      refine Closes.bind ((Order.make _ _).closes _) fun actor third _ _ third' => ?_
      refine Closes.bind ((Order.own ?_ actor).closes _) fun owned last _ _ _ => ?_
      · exact third'.journal.subset (second'.journal.subset noted)
      · cases owned <;> exact closes_ok _

lemma stop_closes (actor : Id) (world : World) : world.Closes (stop actor world) := by
  refine Closes.bind (closes_ok world) fun _ _ got _ _ => ?_
  cases got
  cases found : world.running.find? actor with
  | none => exact closes_ok _
  | some running =>
    dsimp only
    split
    · exact closes_error _
    · rename_i idle
      exact (Order.dismiss found (not_not.1 idle)).closes true

section Expire

variable {fuel : Nat} {now : Int} {correlation : Id} {ask : PendingAsk}

lemma expireOne_closes (fuel : Nat) (timedOut : Note.timedOut correlation ask now ∈ world.journal)
    (runs : world.running.contains ask.asker) :
    world.Closes (expireOne fuel now correlation ask world) := by
  refine Closes.bind ((Order.track timedOut runs).closes ()) fun _ middle _ _ _ => ?_
  exact (post_closes fuel _ _ middle).bind fun _ _ _ _ _ => closes_ok _

/-- Telling one asker of its ask is nested in the timing out of asks. -/
lemma expireOne_nests (told : expireOne fuel now correlation ask world = .ok () after) :
    world.Nests after := by
  have bySteps : BySteps (do
      let world ← get
      let _ ← (engine fuel).post ask.asker (world.timeoutMessage ask)
      : Run Unit) (world.track correlation ask.asker now) :=
    bySteps_get (BySteps.bind (Engine.post_bySteps (engine_bySteps fuel) _ _ _)
      fun _ _ _ _ => bySteps_pure _ _)
  have tracked : world.Nests (world.track correlation ask.asker now) :=
    .of_running rfl (List.suffix_refl _) rfl rfl rfl
  exact tracked.trans (bySteps.ok told).2

lemma expireEach_closes (entries : List (Id × PendingAsk))
    (timedOut : ∀ entry ∈ entries, Note.timedOut entry.1 entry.2 now ∈ world.journal)
    (runs : ∀ entry ∈ entries, world.running.contains entry.2.asker) :
    world.Closes ((entries.forM fun entry => expireOne fuel now entry.1 entry.2) world) := by
  induction entries generalizing world with
  | nil => exact closes_ok _
  | cons entry rest ih =>
    refine Closes.bind (expireOne_closes fuel (timedOut entry List.mem_cons_self)
      (runs entry List.mem_cons_self)) fun _ middle told _ settles => ?_
    have nests := expireOne_nests told
    exact ih (fun other mem => nests.journal.subset (timedOut other (List.mem_cons_of_mem _ mem)))
      fun other mem => nests.contains (runs other (List.mem_cons_of_mem _ mem))

lemma expireAsks_closes (askers : world.AskersRun) (fuel : Nat) (now : Int) :
    world.Closes (expireAsks fuel now world) := by
  refine Closes.bind (closes_ok world) fun _ _ got _ _ => ?_
  cases got
  refine Closes.bind ((Order.timeOut world now).closes ()) fun _ middle out _ _ => ?_
  cases out
  refine Closes.bind (expireEach_closes _ (fun entry mem => ?_) fun entry mem => ?_)
    fun _ middle _ _ _ => ?_
  · exact List.mem_append_left _ (List.mem_map_of_mem mem)
  · have found := List.mem_filter.1 mem
    exact askers.pending entry.1 entry.2 (Table.mem_entries.1 found.1)
  · split
    · exact (pump_closes fuel middle).bind fun _ _ _ _ _ => closes_ok _
    · exact closes_ok _

end Expire

/-- A command goes by moves. -/
theorem run_closes (askers : world.AskersRun) (fuel : Nat)
    (command : Command) : world.Closes (command.run fuel world) := by
  cases command with
  | createActor spec => exact (createActor_closes spec world).discard
  | start actor => exact ((engine_bySteps fuel).spawn actor world).closes.discard
  | spawn actor => exact (spawn_closes fuel actor world).discard
  | stop actor => exact (stop_closes actor world).discard
  | queue target message => exact (post_closes fuel target message.plain world).discard
  | send target message => exact (deliver_closes fuel target message.plain world).discard
  | tell target event payload => exact (deliver_closes fuel target _ world).discard
  | sendTo target message =>
    refine Closes.discard ?_
    unfold sendTo
    cases resolveTarget target with
    | error cause => exact closes_ok _
    | ok id => exact deliver_closes fuel id message.plain world
  | pump => exact (pump_closes fuel world).discard
  | expire now => exact (expireAsks_closes askers fuel now).discard
  | invoke actor payload =>
    exact (Engine.invoke_bySteps (engine_bySteps fuel) actor payload world :
      BySteps _ _).closes.discard
  | execute op =>
    have bySteps : BySteps (World.execute op) world :=
      bySteps_modifyGet (.single (.write world op)) (world.write_storeFrame op).nests
    exact bySteps.closes.discard
  | schedule actor => exact (Order.schedule world actor).closes ()
  | protect object => exact (Order.protect world object).closes ()
  | watch object name => exact (Order.watch world object name).closes ()
  | unwatch token => exact (Order.unwatch world token).closes ()
  | registerSchema event schema => exact (Order.registerSchema world event schema).closes ()
  | setTools tools => exact (Order.setTools world tools).closes ()
  | onRerender script => exact (Order.onRerender world script).closes ()
  | setTime now => exact (Order.setTime world now).closes ()
  | restart config =>
    change world.Closes (.ok () (world.restart config))
    unfold World.restart
    cases restored : world.restore? config with
    | none => exact closes_ok ()
    | some after => exact (Order.restart config restored).closes ()

end World

open World

/-- A session goes by moves, and neither a busy actor nor a pump is left. -/
theorem Session.moves {first world : World} (session : Session first world)
    (askers : first.AskersRun) : Moves first world ∧ first.Leaves world := by
  induction session with
  | first => exact ⟨.refl, .refl first⟩
  | returned fuel command _ ran ih =>
    have closes := run_closes (askers.moves ih.1) fuel command
    rw [ran] at closes
    exact ⟨ih.1.trans closes.1.moves, ih.2.trans closes.2⟩
  | brokenOff fuel command _ ran ih =>
    have closes := run_closes (askers.moves ih.1) fuel command
    rw [ran] at closes
    exact ⟨ih.1.trans closes.1, ih.2.trans closes.2.1⟩

/-- Wherever a runtime is quiet, steps and orders have led to it, and no actor is busy. -/
theorem Quiet.calm {first world : World} (quiet : Quiet first world)
    (askers : first.AskersRun) : Calm first world ∧ first.Settles world := by
  induction quiet with
  | first => exact ⟨.refl, .refl first⟩
  | returned fuel command _ ran ih =>
    have closes := run_closes (askers.moves ih.1.moves) fuel command
    rw [ran] at closes
    exact ⟨ih.1.trans closes.1, ih.2.trans closes.2.toSettles⟩
  | @pumping world pumping _ ih =>
    exact ⟨ih.1.tail (.inl (.pump world pumping)), ih.2.idle, ih.2.journal⟩
  | served depth _ next ran ih =>
    have ends := Engine.handleNext_bySteps (engine_bySteps depth) next
    rw [ran] at ends
    exact ⟨ih.1.trans (Steps.calm ends.1), ih.2.trans ends.2.settles⟩
  | @rendering world rerenders _ ih =>
    exact ⟨ih.1.tail (.inl (.render world rerenders)), ih.2.idle, ih.2.journal⟩
  | ran depth script _ ran ih =>
    have ends := (Engine.runScript_bySteps (engine_bySteps depth) script _).ok ran
    exact ⟨ih.1.trans (Steps.calm ends.1), ih.2.trans ends.2.settles⟩
  | @expiring world now _ ih =>
    have order := Order.timeOut world now
    exact ⟨ih.1.tail (.inr order), ih.2.trans order.settles⟩
  | told fuel _ timedOut runs told ih =>
    have closes := expireOne_closes fuel timedOut runs
    rw [told] at closes
    exact ⟨ih.1.trans closes.1, ih.2.trans closes.2.toSettles⟩

end Troupe
