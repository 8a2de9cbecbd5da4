import Troupe.Proofs.Behavior.Loading
import Troupe.Proofs.Pass.Inlining
import Troupe.Proofs.World.Blocks

/-!
# What a reference comes to

In a list of actions of a loaded definition, a reference is as good as the actions that it names in
its place, as long as no named list has a guard.  The guards of a named list gate its own actions
only: when the list has come to its end, the block in which the reference stands goes on.

## Main results

* `Engine.run_expands`: what the references in a list of actions do.
-/

namespace Troupe

namespace Engine

open Activation

/-- What the references in a list of actions do. -/
structure Expands (engine : Engine) (occasion : Occasion) (actions : List Action) : Prop where
  /-- There is one way to write the list out, with every reference replaced by what it names. -/
  unique : ∃! inlined, occasion.named.Inlines actions inlined
  /-- Written out the list comes to the same, if no named list that it leads to has a guard. -/
  same : ∀ inlined, occasion.named.Inlines actions inlined → occasion.named.Unguarded actions →
    ∀ activation world, engine.runActions occasion activation actions world =
      engine.runActions occasion activation inlined world
  /-- Whatever guards the named list has: where a reference is reached and run, the list that it
  names is run as a list of its own; if that proceeds, so do the actions after the reference, up to
  the next guard among them, and then the rest. -/
  confines : ∀ before name list block rest, actions = before ++ .named name :: (block ++ rest) →
    occasion.named.find? name = some list → Action.IsBlock block → ∀ activation world reached middle,
    engine.Executes occasion activation world before →
    engine.runActions occasion activation before world = .ok (.proceed, reached) middle →
    engine.runActions occasion activation actions world =
      engine.runPass occasion.actor.id
        (reached.run occasion list >>= Step.andThen fun last =>
          last.run occasion block >>= Step.andThen fun last => last.run occasion rest) middle

/-- **Named lists expand in place.**  In a loaded definition every list of actions can be written
out, and comes to the same so if no named list has a guard; and the guards of a named list end with
it. -/
theorem run_expands {definition : Json} {config : Config} {behavior : Behavior}
    (loaded : Behavior.load definition config = .ok behavior) (engine : Engine) (actor : Actor)
    (event : Event) (actions : List Action) :
    engine.Expands ⟨actor, behavior.named, event⟩ actions := by
  have accepted := Behavior.checkCycles_of_load loaded
  refine ⟨NamedActions.existsUnique_inlines accepted actions,
    fun inlined inlines unguarded activation world => ?_, ?_⟩
  · rw [runActions, run_inlines accepted inlines unguarded]
  · rintro before name list block rest rfl found plain activation world reached middle executes
      reaches
    rw [executes.goesOn reaches, runActions, run_reference accepted found plain]

end Engine

namespace Sample

/-- The behavior of a dancer, who knows a step and a figure of two steps. -/
def dance : Json := .record
  [("kind", .str "process"),
    ("actions", .record
      [("figure", .arr [.str "step", .str "step"]),
        ("step", .record [("ctx", .record [("steps", .str "$context.steps + 1")])])])]

/-- A step. -/
def step : Action := .ctx (.record [("steps", .str "$context.steps + 1")])

/-- A bow. -/
def bow : Action := .ctx (.record [("bows", .bool true)])

/-- The named lists of a dancer. -/
def figures : NamedActions :=
  ⟨.ofList [("figure", [.named "step", .named "step"]), ("step", [step])]⟩

/-- An actor with these lists. -/
def dancer : Occasion := ⟨walker.actor, figures, walker.event⟩

lemma load_dance : Behavior.load dance {} = .ok (.process ⟨∅, figures⟩ ["dragging"]) := rfl

lemma inlines_figure : figures.Inlines [.named "figure", bow] [step, step, bow] := by
  have single : figures.Inlines [step] [step] := .keep nofun .nil
  have twice : figures.Inlines [.named "step", .named "step"] [step, step] :=
    .expand rfl single (.expand rfl single .nil)
  exact .expand rfl twice (.keep nofun .nil)

end Sample

/-- A figure and a bow are two steps and a bow. -/
theorem Engine.figure_is_danced :
    ∃ last after,
      (engine 1).runActions Sample.dancer (.ofContext (some (.record [("steps", .count 0)])))
        [.named "figure", Sample.bow] Sample.bare = .ok (.proceed, last) after ∧
      last.actionsRun = 3 ∧ (last.working.field? "steps").bind Json.number? = some (.ofNat 2) := by
  obtain ⟨⟨flow, last⟩, after, ran, tested⟩ := Run.exists_of_returns
    ((engine 1).runActions Sample.dancer (.ofContext (some (.record [("steps", .count 0)])))
      [Sample.step, Sample.step, Sample.bow])
    (fun step _ => step.1 == .proceed && step.2.actionsRun == 3 &&
      (step.2.working.field? "steps").bind Json.number? == some (.ofNat 2)) Sample.bare
    (by decide +kernel)
  simp only [Bool.and_eq_true, beq_iff_eq] at tested
  obtain ⟨⟨rfl, three⟩, two⟩ := tested
  have unguarded : Sample.figures.Unguarded [.named "figure", Sample.bow] := by
    intro _ _ name list _ found
    have listed := Assoc.mem_of_find?_eq_some found
    have blocks : ∀ entry ∈ Sample.figures.lists.entries, Action.IsBlock entry.2 := by
      decide +kernel
    exact blocks _ listed
  have expands := Engine.run_expands Sample.load_dance (engine 1) Sample.walker.actor
    Sample.walker.event [.named "figure", Sample.bow]
  exact ⟨last, after, (expands.same _ Sample.inlines_figure unguarded _ _).trans ran, three, two⟩

end Troupe
