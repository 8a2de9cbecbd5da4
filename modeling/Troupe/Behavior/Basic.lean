import Troupe.Behavior.Machine
import Troupe.Behavior.Process

/-!
# Behaviors

What machines and processes have in common: they start, and they handle events.
-/

namespace Troupe.Behavior

/-- What a behavior remembers before it has started. -/
def initialMemory : Behavior → Memory
  | .machine definition _ _ => { state := some definition.initial }
  | .process _ _ => {}

/-- Start a behavior.  A process has nothing to do. -/
def start (behavior : Behavior) (actor : Actor) (memory : Memory) : Pass Unit :=
  match behavior with
  | .machine definition _ _ => Machine.start definition actor memory
  | .process _ _ => .done ()

/-- The named lists of actions of a behavior. -/
def named : Behavior → NamedActions
  | .machine definition _ _ => definition.named
  | .process definition _ => definition.named

/-- The work of a pass, all but its end: run what the behavior has for an event, if it has
anything. -/
def work (behavior : Behavior) (actor : Actor) (memory : Memory) (event : Event) :
    Pass (Option (Activation × Dispatch)) :=
  match behavior with
  | .machine definition limit suppressed =>
    Machine.work definition limit suppressed actor memory event
  | .process definition suppressed => Process.work definition suppressed actor memory event

/-- End a pass: write what was staged, if anything was to be done at all. -/
def conclude (behavior : Behavior) (actor : Actor) (event : Event) :
    Option (Activation × Dispatch) → Pass Dispatch
  | none => .done {}
  | some (activation, dispatch) => do
    Occasion.finish ⟨actor, behavior.named, event⟩ activation
    return dispatch

/-- Handle an event. -/
def send (behavior : Behavior) (actor : Actor) (memory : Memory) (event : Event) :
    Pass Dispatch := do
  behavior.conclude actor event (← behavior.work actor memory event)

end Troupe.Behavior
