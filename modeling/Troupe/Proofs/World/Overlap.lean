import Troupe.Proofs.Behavior.CurrentState
import Troupe.Proofs.Json.ThreeWay
import Troupe.Proofs.World.Flush

/-!
# What the store was told in the same pass

A pass ends with one update of the context, which says how the working copy differs from the
context as it was read.  By then the pass itself, and the tools that it called, may have written
the context as well.  The update changes what the staged patches changed and nothing else, so
whatever was written to the other fields stays.  The pass in which a machine enters its first state
ends in the same way.

## Main results

* `Behavior.flush_spares`: the difference of two objects, merged into any third, and the update
  that ends a pass, over an event or when a machine is started.
-/

namespace Troupe

namespace Json

/-- Fields that a patch does not name stay, in whatever order it is. -/
lemma find?_mergeFields_of_missing (target : List (String × Json)) {patch : List (String × Json)}
    {name : String} (missing : Assoc.find? name patch = none) :
    Assoc.find? name (mergeFields target patch) = Assoc.find? name target := by
  induction patch generalizing target with
  | nil => rfl
  | cons entry rest ih =>
    obtain ⟨key, value⟩ := entry
    rw [Assoc.find?_cons] at missing
    split at missing
    · cases missing
    · rename_i other
      rw [mergeFields, ih _ missing]
      split
      · rw [Assoc.find?_erase, if_neg other]
      · rw [Assoc.find?_insert, if_neg other]

/-- Fields that none of the patches names stay. -/
lemma find?_foldl_merge_of_missing {name : String} {patches : List Json}
    (objects : ∀ patch ∈ patches, patch.isObject = true)
    (missing : ∀ patch ∈ patches, patch.field? name = none) (value : Json) :
    Assoc.find? name (patches.foldl merge value).fieldsOf = Assoc.find? name value.fieldsOf := by
  induction patches generalizing value with
  | nil => rfl
  | cons patch rest ih =>
    obtain ⟨object, objects⟩ := List.forall_mem_cons.1 objects
    obtain ⟨head, missing⟩ := List.forall_mem_cons.1 missing
    rw [List.foldl_cons, ih objects missing]
    cases patch with
    | obj fields => exact find?_mergeFields_of_missing _ head
    | _ => cases object

end Json

open World

/-- What the end of a pass has made of the context that the store held before it. -/
structure Spared (activation : Activation) (patches : List Json) (held merged : Json) : Prop where
  /-- What differs between the context as it was read and the working copy was changed, and the
  rest was not. -/
  threeWay : Json.ThreeWay activation.base activation.working held merged
  /-- A field that no staged patch names was not changed. -/
  unnamed : ∀ name, (∀ patch ∈ patches, patch.field? name = none) →
    merged.field? name = held.field? name

/-- The update at the end of a pass, if the store holds an object. -/
lemma Activation.Staged.spared {context : Option Json.Document} {patches : List Json}
    {activation : Activation} (staged : activation.Staged (context.map Json.Document.value) patches)
    (held : List (String × Json)) :
    (activation.base.diff activation.working).isObject = true ∧
      Spared activation patches (.obj held)
        ((Json.obj held).merge (activation.base.diff activation.working)) := by
  obtain ⟨object, canonical⟩ := staged.canonical_base
  obtain ⟨old, base⟩ := Json.isObject_iff.1 object
  have ordered : activation.working.Ordered := by
    rw [staged.working]
    exact ((Json.NoNewNull.refl canonical).foldl_merge patches).ordered
  obtain ⟨new, working⟩ : ∃ new, activation.working = .obj new := by
    rw [← Json.isObject_iff, staged.working]
    exact Json.isObject_foldl_merge object staged.objects
  have unnamed : ∀ name, (∀ patch ∈ patches, patch.field? name = none) →
      Assoc.find? name old = Assoc.find? name new := by
    intro name missing
    have same := Json.find?_foldl_merge_of_missing staged.objects missing activation.base
    rw [← staged.working, base, working] at same
    exact same.symm
  rw [working] at ordered
  have threeWay := Json.threeWay_merge_diff old held ordered
  rw [base, working]
  refine ⟨by rw [Json.isObject_diff]; rfl, by rw [base, working]; exact threeWay, ?_⟩
  intro name missing
  have agree : Json.Agree (Assoc.find? name old) (Assoc.find? name new) :=
    unnamed name missing ▸ Json.Agree.refl _
  have kept := threeWay.kept [name] (Json.holdsTo_singleton rfl _) (Json.holdsTo_singleton rfl _)
    (Json.holdsTo_singleton rfl _) (by rwa [Json.at?_singleton, Json.at?_singleton])
  rw [Json.at?_singleton, Json.at?_singleton] at kept
  exact kept

/-- The end of a pass, whatever object the store holds by then. -/
lemma Activation.Staged.finish_spares {engine : Engine} {actor : Id} {occasion : Occasion}
    {context : Option Json.Document} {patches : List Json} {activation : Activation}
    {middle after : World} (staged : activation.Staged (context.map Json.Document.value) patches)
    (free : occasion.actor.config.context ∉ middle.store.locked)
    (finished : engine.runPass actor (occasion.finish activation) middle = .ok () after)
    {held : List (String × Json)}
    (there : middle.store.read occasion.actor.config.context = some (.obj held)) :
    ∃ merged, after.store.read occasion.actor.config.context = some merged ∧
      Spared activation patches (.obj held) merged := by
  obtain ⟨record, spared⟩ := staged.spared held
  rw [engine.runPass_finish actor occasion there free record] at finished
  cases finished
  obtain ⟨-, read, -⟩ := write_update there free record
  exact ⟨_, read, spared⟩

/-- Entering the first state stages its name, and whatever else the entry actions do. -/
lemma Machine.enterFirst_staged (definition : MachineDefinition) (actor : Actor) (memory : Memory)
    (context : Option Json) :
    (enterFirst definition actor memory context).Ensures fun last => ∃ patches,
      last.Staged context patches ∧ .obj [("state", .str definition.initial)] ∈ patches := by
  refine Pass.ensures_bind (enter_later definition _ _ _) fun last later => ?_
  have begun : (Activation.ofContext context).Later
      { Activation.ofContext context with state := some definition.initial } := .of_eq rfl rfl
  obtain ⟨early, staged⟩ := (Activation.Staged.ofContext context).later begun
  obtain ⟨late, staged⟩ := (staged.stage _).later later
  exact ⟨_, staged, by simp⟩

/-- **The end of a pass does not clobber what it did not change.**  The difference of two
objects, merged into any third, changes it where the two differ only.  So the update at the end
of a pass leaves to the context what an operation of the same pass has put there, in all fields
that the staged patches did not change; and so does the one at the end of the pass in which a
machine enters its first state. -/
theorem Behavior.flush_spares :
    (∀ (base current : List (String × Json)) (working : Json.Document),
      working.value.isObject = true →
      Json.ThreeWay (.obj base) working.value (.obj current)
        ((Json.obj current).merge ((Json.obj base).diff working.value))) ∧
    (∀ (depth : Nat) (behavior : Behavior) (actor : Actor) (memory : Memory) (event : Event)
      (context : Option Json.Document) (world after : World) (dispatch : Dispatch),
      world.store.read actor.config.context = context.map Json.Document.value →
      actor.config.context ∉ world.store.locked →
      behavior.handles memory event (world.store.read actor.config.context) = true →
      (engine depth).runPass actor.id (behavior.send actor memory event) world =
        .ok dispatch after →
      ∃ activation middle patches,
        (engine depth).runPass actor.id (behavior.work actor memory event) world =
          .ok (some (activation, dispatch)) middle ∧
        activation.Staged (world.store.read actor.config.context) patches ∧
        ∀ held, middle.store.read actor.config.context = some (.obj held) →
          ∃ merged, after.store.read actor.config.context = some merged ∧
            Spared activation patches (.obj held) merged) ∧
    ∀ (depth : Nat) (definition : MachineDefinition) (actor : Actor) (memory : Memory)
      (context : Option Json.Document) (world after : World),
      world.store.read actor.config.context = context.map Json.Document.value →
      actor.config.context ∉ world.store.locked →
      Machine.persistedState? definition (world.store.read actor.config.context) = none →
      (engine depth).runPass actor.id (Machine.start definition actor memory) world =
        .ok () after →
      ∃ activation middle patches,
        (engine depth).runPass actor.id (Machine.enterFirst definition actor memory
          (world.store.read actor.config.context)) world = .ok activation middle ∧
        activation.Staged (world.store.read actor.config.context) patches ∧
        .obj [("state", .str definition.initial)] ∈ patches ∧
        ∀ held, middle.store.read actor.config.context = some (.obj held) →
          ∃ merged, after.store.read actor.config.context = some merged ∧
            Spared activation patches (.obj held) merged := by
  refine ⟨fun base current working object => ?_, ?_, ?_⟩
  · obtain ⟨value, canonical⟩ := working
    obtain ⟨new, rfl⟩ := Json.isObject_iff.1 object
    exact Json.threeWay_merge_diff base current canonical.ordered
  · intro depth behavior actor memory event context world after dispatch read free handles ran
    obtain ⟨-, activation, middle, patches, worked, finished, grows, staged, -⟩ :=
      behavior.send_of_handles handles ran
    refine ⟨activation, middle, patches, worked, staged, fun held there => ?_⟩
    rw [read] at staged
    exact staged.finish_spares (grows.locked ▸ free) finished there
  · intro depth definition actor memory context world after read free anew ran
    rw [Machine.start_eq, Engine.runPass_read] at ran
    dsimp only at ran
    rw [anew, Engine.runPass_read] at ran
    obtain ⟨activation, middle, entered, ran⟩ := Engine.runPass_bind ran
    obtain ⟨⟨⟩, flushed, finished, remembered⟩ := Engine.runPass_bind ran
    obtain ⟨⟨patches, staged, named⟩, grows⟩ := Engine.runPass_ok (engine_bySteps depth)
      (Machine.enterFirst_staged definition actor memory _) entered
    refine ⟨activation, middle, patches, entered, staged, named, fun held there => ?_⟩
    -- what is remembered after the end of the pass is not in the store
    have same : after.store = flushed.store := by
      rw [Engine.runPass_remember_done] at remembered
      cases remembered
      exact updateRunning_store _ _ _
    rw [read] at staged
    rw [same]
    exact staged.finish_spares (grows.locked ▸ free) finished there

namespace Sample

/-- A process that writes to its context in the store, and then patches another field. -/
def overlapping : Behavior :=
  .process ⟨Table.ofList [("GO",
    [.op (.update (.id (.ofNat 2)) (.obj [("told", .bool true)])),
      .ctx (.obj [("seen", .bool true)])])], ⟨∅⟩⟩ []

end Sample

/-- What the operation has written is there after the update that ends the pass. -/
theorem Behavior.flush_spares_told :
    ∃ dispatch after merged,
      (engine 1).runPass Sample.marker.id (Sample.overlapping.send Sample.marker {}
        ⟨"GO", .empty, none, none⟩) Sample.unmarked = .ok dispatch after ∧
      after.store.read (.ofNat 2) = some merged ∧
      (merged.at? ["told"]).bind Json.bool? = some true ∧
      (merged.at? ["seen"]).bind Json.bool? = some true := by
  have returned : ((engine 1).runPass Sample.marker.id (Sample.overlapping.send Sample.marker {}
      ⟨"GO", .empty, none, none⟩)).returns (fun _ _ => true) Sample.unmarked := by
    decide +kernel
  have worked : ((engine 1).runPass Sample.marker.id (Sample.overlapping.work Sample.marker {}
      ⟨"GO", .empty, none, none⟩)).returns (fun outcome middle =>
        (middle.store.read (.ofNat 2)).any (fun held => held.isObject &&
          (held.at? ["told"]).bind Json.bool? == some true) &&
        outcome.any fun done => done.1.base.isObject && done.1.working.isObject &&
          (done.1.base.at? ["told"]).isNone && (done.1.working.at? ["told"]).isNone &&
          (done.1.base.at? ["seen"]).isNone &&
          (done.1.working.at? ["seen"]).bind Json.bool? == some true) Sample.unmarked := by
    decide +kernel
  obtain ⟨dispatch, after, ran, -⟩ := Run.exists_of_returns _ _ _ returned
  obtain ⟨activation, middle, patches, work, -, spared⟩ := Behavior.flush_spares.2.1 1
    Sample.overlapping Sample.marker {} ⟨"GO", .empty, none, none⟩ (some Sample.voided)
    Sample.unmarked after dispatch rfl (by decide) (by decide +kernel) ran
  rw [Run.returns, work] at worked
  simp only [Bool.and_eq_true, Option.any_some, Option.any_eq_true, beq_iff_eq,
    Option.isNone_iff_eq_none, Option.bind_eq_some_iff] at worked
  obtain ⟨⟨held, there, object, told, toldThere, yes⟩, ⟨⟨⟨⟨base, working⟩, untold⟩, untold'⟩, unseen⟩,
    seen, seenThere, yes'⟩ := worked
  obtain ⟨fields, rfl⟩ := Json.isObject_iff.1 object
  obtain ⟨merged, stored, threeWay, -⟩ := spared fields there
  refine ⟨dispatch, after, merged, ran, stored, ?_, ?_⟩
  · have kept := threeWay.kept ["told"] (Json.holdsTo_singleton base _)
      (Json.holdsTo_singleton working _) (Json.holdsTo_singleton object _)
      (by rw [untold, untold']; trivial)
    rw [kept, toldThere, Option.bind_some, yes]
  · cases seen with
    | bool value =>
      rw [threeWay.set ["seen"] _ seenThere rfl (by simp) (by rw [unseen]; exact not_false)]
      exact yes'
    | _ => cases yes'

end Troupe
