import Troupe.Proofs.Pass.Blocks
import Troupe.Proofs.World.Keeps

/-!
# What a guard gates

A guard that does not hold is as good as no block after it, and one that holds in a block that is
run is as good as no guard.  Where a list of actions stops, or is broken off, nothing of what follows
has any effect.  All this is said of the whole outcome of running a list: the step that it comes to
and the state of the runtime after it, or the halt that breaks it off.

## Main results

* `Engine.run_gates`: what a guard in the midst of a list of actions does.
-/

namespace Troupe

namespace Engine

open Activation

variable {engine : Engine} {occasion : Occasion} {activation reached : Activation}
variable {world middle : World} {before block rest later : List Action} {guard : Guard}

/-- Run a list of actions in a pass. -/
abbrev runActions (engine : Engine) (occasion : Occasion) (activation : Activation)
    (actions : List Action) : Run Step :=
  engine.runPass occasion.actor.id (activation.run occasion actions)

/-- What is gone on with after a first part that does not stop. -/
lemma runPass_andThen {actor : Id} {first : Pass Step}
    (ran : engine.runPass actor first world = .ok (.proceed, reached) middle)
    (next : Activation → Pass Step) :
    engine.runPass actor (first >>= Step.andThen next) world =
      engine.runPass actor (next reached) middle := by
  rw [runPass_then, Run.bind_of_ok ran]
  rfl

/-- A list that does not come to its end comes to the same, whatever follows it. -/
lemma runWith_append_of_ended {call : String → Activation → Pass Step} {skipping : Bool}
    {outcome : EStateM.Result Halt World Step}
    (ended : ∀ last after, outcome ≠ .ok (.proceed, last) after)
    (ran : engine.runPass occasion.actor.id
      (runWith call occasion before skipping activation) world = outcome) (later : List Action) :
    engine.runPass occasion.actor.id
      (runWith call occasion (before ++ later) skipping activation) world = outcome := by
  induction before generalizing skipping activation world with
  | nil => exact absurd ran.symm (ended _ _)
  | cons action before ih =>
    rw [List.cons_append]
    cases action with
    | guard guard =>
      cases decided : activation.holds occasion.event guard with
      | ok holds =>
        rw [runWith_guard decided] at ran ⊢
        exact ih ran
      | error error =>
        rw [runWith_guard_undecided decided] at ran ⊢
        exact ran
    | _ =>
      cases skipping with
      | true =>
        rw [runWith_cons_skipping rfl] at ran ⊢
        exact ih ran
      | false =>
        rw [runWith_cons rfl, runPass_then] at ran ⊢
        -- what follows matters only if the action does not stop
        cases first : engine.runPass occasion.actor.id (runOne call occasion _ activation) world with
        | error halt after =>
          rw [Run.bind_of_error first] at ran ⊢
          exact ran
        | ok step after =>
          rw [Run.bind_of_ok first] at ran ⊢
          obtain ⟨flow, next⟩ := step
          cases flow with
          | proceed => exact ih ran
          | stop => exact ran

/-- The actions that follow some others are run: there is no guard among the others, or the last
one holds in the state in which it is reached. -/
inductive Executes (engine : Engine) (occasion : Occasion) (activation : Activation)
    (world : World) : List Action → Prop
  /-- There is no guard among them. -/
  | block {before : List Action} :
    Action.IsBlock before → Executes engine occasion activation world before
  /-- The last one holds. -/
  | gated {before block : List Action} {guard : Guard} {reached : Activation} {middle : World}
    (reaches : engine.runActions occasion activation before world = .ok (.proceed, reached) middle)
    (holds : reached.holds occasion.event guard = .ok true) (plain : Action.IsBlock block) :
    Executes engine occasion activation world (before ++ .guard guard :: block)

/-- Where actions are run, what follows them goes on from the state that they come to. -/
lemma Executes.goesOn (executes : engine.Executes occasion activation world before)
    (reaches : engine.runActions occasion activation before world = .ok (.proceed, reached) middle)
    (rest : List Action) : engine.runActions occasion activation (before ++ rest) world =
      engine.runActions occasion reached rest middle := by
  unfold runActions Activation.run at reaches ⊢
  cases executes with
  | block plain => rw [runWith_append_block plain, runPass_andThen reaches]
  | @gated before block guard early start earlier holds plain =>
    unfold runActions Activation.run at earlier
    rw [runWith_append_guard, runPass_andThen earlier, runWith_guard holds] at reaches
    rw [List.append_assoc, List.cons_append, runWith_append_guard, runPass_andThen earlier,
      runWith_guard holds]
    change engine.runPass _ (runWith _ _ block false _) _ = _ at reaches
    change engine.runPass _ (runWith _ _ (block ++ rest) false _) _ = _
    rw [runWith_append_block plain, runPass_andThen reaches]

/-- What a guard does in a list of actions.  Some actions stand before it, and after it a block and
then the rest. -/
structure Gates (engine : Engine) (occasion : Occasion) (activation : Activation) (world : World)
    (before : List Action) (guard : Guard) (block rest : List Action) : Prop where
  /-- If the guard is reached and does not hold, the list comes to the same as without the block. -/
  skips : ∀ reached middle,
    engine.runActions occasion activation before world = .ok (.proceed, reached) middle →
    reached.holds occasion.event guard = .ok false →
    engine.runActions occasion activation (before ++ .guard guard :: (block ++ rest)) world =
      engine.runActions occasion activation (before ++ .guard guard :: rest) world
  /-- If it holds, and what stands before it is run, the list comes to the same as without it. -/
  joins : ∀ reached middle,
    engine.runActions occasion activation before world = .ok (.proceed, reached) middle →
    engine.Executes occasion activation world before →
    reached.holds occasion.event guard = .ok true →
    engine.runActions occasion activation (before ++ .guard guard :: (block ++ rest)) world =
      engine.runActions occasion activation (before ++ (block ++ rest)) world
  /-- If it cannot be evaluated, that failure is all that the list still comes to, whatever
  follows. -/
  fails : ∀ reached middle error,
    engine.runActions occasion activation before world = .ok (.proceed, reached) middle →
    reached.holds occasion.event guard = .error error →
    ∀ later, engine.runActions occasion activation (before ++ .guard guard :: later) world =
      engine.runPass occasion.actor.id (reached.failed occasion error) middle
  /-- If it is not reached, because an action before it stops, a guard fails or a tool breaks off,
  the list comes to that, whatever follows. -/
  ends : ∀ outcome, (∀ last after, outcome ≠ .ok (.proceed, last) after) →
    engine.runActions occasion activation before world = outcome →
    ∀ later, engine.runActions occasion activation (before ++ later) world = outcome

/-- **A block whose guard does not hold is as if it were not there.**  And a guard that holds is
as if it were not there, where the block before it is run too; and where a list of actions stops, no
later action of it has any effect. -/
theorem run_gates (engine : Engine) (occasion : Occasion) (activation : Activation) (world : World)
    (before : List Action) (guard : Guard) {block : List Action} (plain : Action.IsBlock block)
    (rest : List Action) : engine.Gates occasion activation world before guard block rest where
  skips reached middle reaches fails := by
    unfold runActions Activation.run at reaches ⊢
    rw [runWith_append_guard, runPass_andThen reaches, runWith_guard fails, runWith_append_guard,
      runPass_andThen reaches, runWith_guard fails]
    change engine.runPass _ (runWith _ _ (block ++ rest) true _) _ =
      engine.runPass _ (runWith _ _ rest true _) _
    rw [runWith_skipped plain]
  joins reached middle reaches executes holds := by
    rw [executes.goesOn reaches, executes.goesOn reaches]
    unfold runActions Activation.run
    rw [runWith_guard holds]
    rfl
  fails reached middle error reaches undecided later := by
    unfold runActions Activation.run at reaches ⊢
    rw [runWith_append_guard, runPass_andThen reaches, runWith_guard_undecided undecided]
  ends outcome ended ran later := runWith_append_of_ended ended ran later

end Engine

namespace Sample

/-- An actor that is told to go. -/
def walker : Occasion :=
  ⟨⟨.ofNat 3, ⟨["GO"], .ofNat 1, .ofNat 2, .null, none, ∅, ∅⟩⟩, ⟨∅⟩, ⟨"GO", .empty, none, none⟩⟩

/-- A runtime without objects. -/
def bare : World := World.new {} (Store.ofImage ⟨.ofNat, 10⟩ ⟨∅, ∅⟩) ⟨.ofNat, 0⟩ ⟨0, 1000⟩

/-- It takes a step, -/
def walking : List Action := [.ctx (.obj [("steps", .count 1)])]

/-- and looks whether it has come far. -/
def far : Guard := .expr (.str "$context.steps > 2")

/-- There it leaves a mark, -/
def leaving : List Action := [.op (.create .empty), .ctx (.obj [("left", .bool true)])]

/-- and in any case it rests. -/
def resting : List Action := [.guard (.literal true), .ctx (.obj [("rests", .bool true)])]

/-- Whether it goes on and has not come far. -/
def isNear (step : Activation.Step) : Bool :=
  step.1 == .proceed && match step.2.holds walker.event far with
    | .ok holds => !holds
    | .error _ => false

end Sample

/-- A walker that has not come far leaves no mark, and rests. -/
theorem Engine.gate_stays_shut :
    ∃ last after,
      (engine 1).runActions Sample.walker (.ofContext none)
        (Sample.walking ++ .guard Sample.far :: (Sample.leaving ++ Sample.resting)) Sample.bare =
          .ok (.proceed, last) after ∧
      last.creates = 0 ∧ after.store.supply.made = 10 ∧
      (last.working.field? "rests").bind Json.bool? = some true := by
  obtain ⟨⟨flow, reached⟩, middle, reaches, tested⟩ := Run.exists_of_returns
    ((engine 1).runActions Sample.walker (.ofContext none) Sample.walking)
    (fun step _ => Sample.isNear step) Sample.bare (by decide +kernel)
  obtain ⟨⟨flow', last⟩, after, ran, tested'⟩ := Run.exists_of_returns
    ((engine 1).runActions Sample.walker (.ofContext none)
      (Sample.walking ++ .guard Sample.far :: Sample.resting))
    (fun step after => step.1 == .proceed && step.2.creates == 0 &&
      after.store.supply.made == 10 &&
      (step.2.working.field? "rests").bind Json.bool? == some true) Sample.bare (by decide +kernel)
  simp only [Sample.isNear, Bool.and_eq_true, beq_iff_eq] at tested tested'
  obtain ⟨rfl, near⟩ := tested
  obtain ⟨⟨⟨rfl, creates⟩, made⟩, rests⟩ := tested'
  have fails : reached.holds Sample.walker.event Sample.far = .ok false := by
    split at near
    · rename_i holds decided
      rw [decided]
      simpa using near
    · cases near
  have plain : Action.IsBlock Sample.leaving := by decide
  have gates := Engine.run_gates (engine 1) Sample.walker (.ofContext none) Sample.bare
    Sample.walking Sample.far plain Sample.resting
  exact ⟨last, after, (gates.skips reached middle reaches fails).trans ran, creates, made, rests⟩

end Troupe
