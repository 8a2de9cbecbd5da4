import Troupe.Behavior.Definition
import Troupe.Pass.Actions

/-!
# Processes

A process handles an event by its list of actions, in one pass.  It has no states; a `state`
field in its context only suppresses rerenders.
-/

namespace Troupe.Process

/-- Whether the context names a state in which no rerender is asked for. -/
def isSuppressed (suppressed : List String) (context : Json) : Bool :=
  match context.field? "state" with
  | some (.str state) => suppressed.contains state
  | _ => false

/-- The work of a pass, all but its end: run the handler of an event, if there is one. -/
def work (definition : ProcessDefinition) (suppressed : List String) (actor : Actor)
    (memory : Memory) (event : Event) : Pass (Option (Activation × Dispatch)) := do
  match definition.handlers.find? event.name with
  | none => return none
  | some actions =>
    let occasion : Occasion := ⟨actor, definition.named, event⟩
    let activation ← Activation.begin occasion
    let (_, activation) ← activation.run occasion actions
    let quiet := isSuppressed suppressed activation.working
    .remember { memory with
      lastEvent := event.payload, lastResult := activation.result, passes := memory.passes + 1 }
      (.done ())
    return some (activation, { handled := true, rerender := activation.actionsRun > 0 && !quiet })

end Troupe.Process
