import Troupe.Proofs.Json.Paths
import Troupe.Proofs.Pass.Staging
import Troupe.Proofs.World.Keeps
import Troupe.Proofs.World.Runs

/-!
# A pass writes its context once

A behavior that handles an event ends the pass with one update of the context.  The update says
how the context that was read differs from the working copy, so it gives the working copy if
nobody wrote the context in between; it is an update like any other, and others may have.

## Main results

* `Engine.runPass_ok`: what a pass that returns has come to;
* `Behavior.flushes_once`: a handled event ends in one update, and what it stores.
-/

namespace Troupe

namespace World

variable {α : Type} {world after : World}

lemma BySteps.grows {run : Run α} {result : α} (bySteps : BySteps run world)
    (ran : run world = .ok result after) : world.store.Grows after.store :=
  (bySteps.ok ran).1.grows

end World

namespace Engine

open World

variable {α β : Type} {engine : Engine} {actor : Id} {world after : World}

/-- A pass that returns has a result that it ensures, and wrote to the store at most. -/
theorem runPass_ok (bySteps : engine.BySteps) {pass : Pass α} {Q : α → Prop}
    (ensures : pass.Ensures Q) {result : α}
    (ran : engine.runPass actor pass world = .ok result after) :
    Q result ∧ world.store.Grows after.store := by
  induction pass generalizing world with
  | done value =>
    cases ran
    exact ⟨ensures, .refl _⟩
  | read id next ih => exact ih _ (ensures _) ran
  | interfaceOf target next ih => exact ih _ (ensures _) ran
  | execute op next ih =>
    obtain ⟨holds, grows⟩ := ih _ (ensures _) ran
    exact ⟨holds, (world.write_storeFrame op).store.toGrows.trans grows⟩
  | registerAsk asker target event next ih =>
    change engine.runPass actor (next (world.registerAsk asker target event).1)
      (world.registerAsk asker target event).2 = _ at ran
    obtain ⟨holds, grows⟩ := ih _ (ensures _) ran
    exact ⟨holds, grows⟩
  | remember memory next ih =>
    change engine.runPass actor next (world.remember actor memory) = _ at ran
    have same : (world.remember actor memory).store = world.store := updateRunning_store _ _ _
    exact same ▸ ih ensures ran
  | callTool name view payload next ih =>
    obtain ⟨answer, middle, called, rest⟩ := Run.ok_of_bind ran
    obtain ⟨holds, grows⟩ := ih answer (ensures _) rest
    exact ⟨holds, ((callTool_bySteps bySteps _ _ _ _).grows called).trans grows⟩
  | deliver target message next ih =>
    obtain ⟨answer, middle, posted, rest⟩ := Run.ok_of_bind ran
    obtain ⟨holds, grows⟩ := ih _ (ensures _) rest
    exact ⟨holds, ((post_bySteps bySteps _ _ _).grows posted).trans grows⟩
  | invoke target payload next ih =>
    obtain ⟨answer, middle, invoked, rest⟩ := Run.ok_of_bind ran
    obtain ⟨holds, grows⟩ := ih answer (ensures _) rest
    exact ⟨holds, ((invoke_bySteps bySteps _ _ _).grows invoked).trans grows⟩

lemma runPass_read (id object : Id) (next : Option Json → Pass α) (world : World) :
    engine.runPass id (.read object next) world =
      engine.runPass id (next (world.store.read object)) world := rfl

lemma runPass_remember_done (id : Id) (memory : Memory) (world : World) :
    engine.runPass id (.remember memory (.done ())) world = .ok () (world.remember id memory) := rfl

/-- A pass that goes on with another returns if both do, one after the other. -/
theorem runPass_bind {pass : Pass α} {next : α → Pass β} {result : β}
    (ran : engine.runPass actor (pass >>= next) world = .ok result after) :
    ∃ answer middle, engine.runPass actor pass world = .ok answer middle ∧
      engine.runPass actor (next answer) middle = .ok result after := by
  rw [runPass_then] at ran
  exact Run.ok_of_bind ran

end Engine

namespace World

variable {world : World}

/-- An update of an object that is there and not protected is carried out. -/
lemma write_update {object : Id} {current patch : Json}
    (found : world.store.read object = some current) (free : object ∉ world.store.locked)
    (record : patch.isObject = true) :
    (∃ answer, (world.write (.update object patch)).1 = .ok answer) ∧
      (world.write (.update object patch)).2.store.read object = some (current.merge patch) ∧
      (world.write (.update object patch)).2.store.writeCount object =
        world.store.writeCount object + 1 ∧
      (world.write (.update object patch)).2.journal =
        .wrote object (.update object patch) :: world.journal := by
  have applied := Store.update_of_writable found free record
  have carried : world.store.execute (.update object patch) =
      (.ok (.record [("id", .id object), ("updated", .bool true)]),
        world.store.put object (current.merge patch)) := by
    rw [Store.execute, Store.apply, applied]
  have written : world.store.written? (.update object patch) = some object := by
    rw [Store.written?, Store.apply, applied]
  have after : (world.write (.update object patch)).2 =
      (world.withStore (world.store.put object (current.merge patch))).note
        (.wrote object (.update object patch)) := by
    rw [write_snd, written, apply, carried]
  rw [after]
  refine ⟨⟨_, by rw [write, apply, carried, written]⟩, ?_, ?_, ?_⟩
  · change (world.withStore _).store.read object = _
    rw [withStore_store]
    exact (Store.read_put _ _ _ _).trans (if_pos rfl)
  · change (world.withStore _).store.writeCount object = _
    rw [withStore_store]
    exact (Store.writeCount_put _ _ _ _).trans (by rw [if_pos rfl])
  · rw [World.note, withStore_journal]

end World

open World

/-- The end of a pass over a context that is there and not protected. -/
lemma Engine.runPass_finish (engine : Engine) (actor : Id) (occasion : Occasion)
    {activation : Activation} {context : Json} {world : World}
    (found : world.store.read occasion.actor.config.context = some context)
    (free : occasion.actor.config.context ∉ world.store.locked)
    (record : (activation.base.diff activation.working).isObject = true) :
    engine.runPass actor (occasion.finish activation) world = .ok ()
      (world.write (.update occasion.actor.config.context
        (activation.base.diff activation.working))).2 := by
  obtain ⟨next, begins, ends, -⟩ := occasion.finish_eq activation
  obtain ⟨⟨answer, carried⟩, -⟩ := write_update found free record
  rw [begins]
  refine (Run.modifyGet_bind _ _ _).trans ?_
  rw [carried, ends]
  rfl

/-- How a pass went that handled an event: its work came to `activation`, in the state `middle`,
and one update of the context ended it. -/
structure Flushed (engine : Engine) (behavior : Behavior) (actor : Actor) (memory : Memory)
    (event : Event) (world after : World) (dispatch : Dispatch) (activation : Activation)
    (middle : World) : Prop where
  /-- The work. -/
  worked : engine.runPass actor.id (behavior.work actor memory event) world =
    .ok (some (activation, dispatch)) middle
  /-- The end, however the work stopped: -/
  ended : engine.runPass actor.id (Occasion.finish ⟨actor, behavior.named, event⟩ activation)
    middle = .ok () after
  /-- one update of the context, and no store operation after it. -/
  once : ∃ next, Occasion.finish ⟨actor, behavior.named, event⟩ activation =
      .execute (.update actor.config.context (activation.base.diff activation.working)) next ∧
    ∀ answer, (next answer).Only fun
      | .deliver target _ => target = actor.id
      | _ => False
  /-- The working copy is the context as it was read, with every staged patch merged in; a
  transition stages the state that it leads to. -/
  staged : ∃ patches, activation.Staged (world.store.read actor.config.context) patches ∧
    ∀ transition, behavior.transition? memory event (world.store.read actor.config.context) =
      some transition → .obj [("state", .str transition.target)] ∈ patches
  /-- If the work did not write the context, the update is the one write of the pass to it, -/
  counted : middle.store.writeCount actor.config.context =
      world.store.writeCount actor.config.context →
    after.journal = .wrote actor.config.context (.update actor.config.context
      (activation.base.diff activation.working)) :: middle.journal ∧
    after.store.writeCount actor.config.context =
      world.store.writeCount actor.config.context + 1
  /-- and it stores the working copy. -/
  stored : middle.store.writeCount actor.config.context =
      world.store.writeCount actor.config.context →
    ∃ value, after.store.read actor.config.context = some value ∧
      value.same activation.working = true

/-- A pass begins with an object in order, whether the context is one or counts as an empty one. -/
lemma Activation.Staged.canonical_base {context : Option Json.Document} {activation : Activation}
    {patches : List Json} (staged : activation.Staged (context.map Json.Document.value) patches) :
    activation.base.isObject = true ∧ activation.base.Canonical := by
  rw [staged.base]
  obtain _ | ⟨value, canonical⟩ := context
  · exact ⟨rfl, Assoc.sorted_nil, trivial⟩
  · cases value with
    | obj fields => exact ⟨rfl, canonical⟩
    | _ => exact ⟨rfl, Assoc.sorted_nil, trivial⟩

/-- The update at the end of a pass gives the working copy: an object is merged with how it
differs from it, and anything else counts as an empty object. -/
lemma Activation.same_merge_diff {context : Json.Document} {activation : Activation}
    {patches : List Json} (staged : activation.Staged (some context.value) patches) :
    (activation.base.diff activation.working).isObject = true ∧
      (context.value.merge (activation.base.diff activation.working)).same activation.working =
        true := by
  have begun : activation.Staged ((some context).map Json.Document.value) patches := staged
  obtain ⟨object, canonical⟩ := begun.canonical_base
  have fields : context.value.fieldsOf = activation.base.fieldsOf := by
    rw [staged.base]
    cases context.value <;> rfl
  have record : (activation.base.diff activation.working).isObject = true := by
    rw [Json.isObject_diff, staged.working]
    exact Json.isObject_foldl_merge object staged.objects
  refine ⟨record, ?_⟩
  rw [Json.merge_eq_of_fieldsOf record fields, staged.working]
  exact ((Json.NoNewNull.refl canonical).foldl_merge patches).same_merge_diff canonical

/-- A pass over an event that the behavior handles: its work comes to a state with patches
staged, that of a new state among them, and then the pass ends. -/
lemma Behavior.send_of_handles {depth : Nat} (behavior : Behavior) {actor : Actor}
    {memory : Memory} {event : Event} {world after : World} {dispatch : Dispatch}
    (handles : behavior.handles memory event (world.store.read actor.config.context) = true)
    (ran : (engine depth).runPass actor.id (behavior.send actor memory event) world =
      .ok dispatch after) :
    dispatch.handled = true ∧ ∃ activation middle patches,
      (engine depth).runPass actor.id (behavior.work actor memory event) world =
        .ok (some (activation, dispatch)) middle ∧
      (engine depth).runPass actor.id (Occasion.finish ⟨actor, behavior.named, event⟩ activation)
        middle = .ok () after ∧
      world.store.Grows middle.store ∧
      activation.Staged (world.store.read actor.config.context) patches ∧
      ∀ transition, behavior.transition? memory event (world.store.read actor.config.context) =
        some transition → .obj [("state", .str transition.target)] ∈ patches := by
  obtain ⟨outcome, middle, worked, ended⟩ := Engine.runPass_bind ran
  rcases behavior.work_cases actor memory event with ⟨-, unhandled⟩ | ⟨next, begins, ensures⟩
  · rw [unhandled] at handles
    cases handles
  · have rest : (engine depth).runPass actor.id (next (world.store.read actor.config.context))
        world = .ok outcome middle := by
      rw [begins] at worked
      exact worked
    obtain ⟨works, grows⟩ := Engine.runPass_ok (engine_bySteps depth) (ensures _) rest
    cases outcome with
    | none =>
      change behavior.handles memory event _ = false at works
      rw [works] at handles
      cases handles
    | some outcome =>
      obtain ⟨activation, last⟩ := outcome
      obtain ⟨-, handled, patches, staged, entered⟩ := works
      obtain ⟨⟨⟩, last, finished, returned⟩ := Engine.runPass_bind ended
      cases returned
      exact ⟨handled, activation, middle, patches, worked, finished, grows, staged, entered⟩

/-- A pass over an event that the behavior handles ends with one update of the context, whatever
it did before; and if nothing wrote the context meanwhile, that stores the working copy. -/
theorem Behavior.flushes_once (depth : Nat) (behavior : Behavior) (actor : Actor)
    (memory : Memory) (event : Event) {context : Json.Document} {world after : World}
    {dispatch : Dispatch} (found : world.store.read actor.config.context = some context.value)
    (free : actor.config.context ∉ world.store.locked)
    (handles : behavior.handles memory event (some context.value) = true)
    (ran : (engine depth).runPass actor.id (behavior.send actor memory event) world =
      .ok dispatch after) :
    dispatch.handled = true ∧ ∃ activation middle,
      Flushed (engine depth) behavior actor memory event world after dispatch activation middle := by
  obtain ⟨handled, activation, middle, patches, worked, finished, grows, staged, entered⟩ :=
    behavior.send_of_handles (found ▸ handles) ran
  rw [found] at staged
  obtain ⟨record, same⟩ := Activation.same_merge_diff staged
  -- nothing wrote the context, so it is as it was, and the update is carried out
  have carried : middle.store.writeCount actor.config.context =
      world.store.writeCount actor.config.context →
      after.journal = .wrote actor.config.context (.update actor.config.context
        (activation.base.diff activation.working)) :: middle.journal ∧
      after.store.writeCount actor.config.context =
        world.store.writeCount actor.config.context + 1 ∧
      after.store.read actor.config.context =
        some (context.value.merge (activation.base.diff activation.working)) := by
    intro untouched
    have there := (grows.read_eq _ untouched).trans found
    have writable : actor.config.context ∉ middle.store.locked := grows.locked ▸ free
    have wrote := Engine.runPass_finish (engine depth) actor.id
      ⟨actor, behavior.named, event⟩ there writable record
    rw [wrote] at finished
    cases finished
    obtain ⟨-, read, counted, journal⟩ := write_update there writable record
    exact ⟨journal, counted.trans (by rw [untouched]), read⟩
  obtain ⟨next, begins, -, only⟩ := Occasion.finish_eq ⟨actor, behavior.named, event⟩ activation
  refine ⟨handled, activation, middle, worked, finished, ⟨next, begins, only⟩,
    ⟨patches, found ▸ staged, entered⟩, ?_, ?_⟩
  · exact fun untouched => ⟨(carried untouched).1, (carried untouched).2.1⟩
  · exact fun untouched => ⟨_, (carried untouched).2.2, same⟩

namespace Sample

/-- A context with a null field. -/
def voided : Json.Document := .ofParsed (.obj [("kept", .null)])

/-- An actor with that context. -/
def marker : Actor := ⟨.ofNat 3, ⟨["GO"], .ofNat 1, .ofNat 2, .null, none, ∅, ∅⟩⟩

/-- A process that sets another field. -/
def marking : Behavior :=
  .process ⟨Table.ofList [("GO", [.ctx (.obj [("seen", .bool true)])])], ⟨∅⟩⟩ []

/-- A runtime with that context. -/
def unmarked : World :=
  World.new {} (Store.ofImage ⟨.ofNat, 10⟩ ⟨Table.ofList [(.ofNat 2, voided.value)], ∅⟩)
    ⟨.ofNat, 0⟩ ⟨0, 1000⟩

end Sample

/-- Setting one field of a context leaves the null in another. -/
theorem Behavior.flush_keeps_null :
    ∃ dispatch after activation middle,
      Flushed (engine 1) Sample.marking Sample.marker {} ⟨"GO", .empty, none, none⟩ Sample.unmarked
        after dispatch activation middle ∧
      activation.working.same (.obj [("kept", .null), ("seen", .bool true)]) = true ∧
      ∃ value, after.store.read (.ofNat 2) = some value ∧
        value.same activation.working = true := by
  have returned : ((engine 1).runPass Sample.marker.id (Sample.marking.send Sample.marker {}
      ⟨"GO", .empty, none, none⟩)).returns (fun _ _ => true) Sample.unmarked := by
    decide +kernel
  have worked : ((engine 1).runPass Sample.marker.id (Sample.marking.work Sample.marker {}
      ⟨"GO", .empty, none, none⟩)).returns (fun outcome middle =>
        middle.store.writeCount (.ofNat 2) == Sample.unmarked.store.writeCount (.ofNat 2) &&
          outcome.any fun done =>
            done.1.working.same (.obj [("kept", .null), ("seen", .bool true)])) Sample.unmarked := by
    decide +kernel
  obtain ⟨dispatch, after, ran, -⟩ := Run.exists_of_returns _ _ _ returned
  have found : Sample.unmarked.store.read (.ofNat 2) = some Sample.voided.value := rfl
  obtain ⟨-, activation, middle, flushed⟩ := Behavior.flushes_once 1 Sample.marking Sample.marker
    {} ⟨"GO", .empty, none, none⟩ found (by decide) (by decide +kernel) ran
  rw [Run.returns, flushed.worked] at worked
  simp only [Bool.and_eq_true, beq_iff_eq, Option.any_some] at worked
  exact ⟨dispatch, after, activation, middle, flushed, worked.2, flushed.stored worked.1⟩

end Troupe
