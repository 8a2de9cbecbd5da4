import Troupe.Behavior.Definition
import Troupe.Pass.Actions

/-!
# State machines

The name of the current state is kept in the context's `state` field and in memory.  An event
takes the first candidate whose guard is absent or holds; a guard that cannot be evaluated
does not hold.  Then the exit actions, the transition's actions and the entry actions of the
new state run, in one pass; a stop among the first two commits the transition without the
entry actions.  The new state is remembered before the exit actions run, the transition after
the transition's actions.
-/

namespace Troupe.Machine

/-- The event that a machine enters its first state with. -/
def initialEvent : Event := { name := "$init", payload := .empty }

/-- The occasion for a machine to handle an event. -/
def occasion (definition : MachineDefinition) (actor : Actor) (event : Event) : Occasion :=
  ⟨actor, definition.named, event⟩

/-- Enter a state: run its entry actions.  When they run to the end and invoked a tool, and
the state awaits a success, the actor tells itself of it. -/
def enter (definition : MachineDefinition) (occasion : Occasion) (state : String)
    (activation : Activation) : Pass Activation := do
  match definition.states.find? state with
  | none => return activation
  | some node =>
    let (flow, activation) ← { activation with invoked := none }.run occasion node.entry
    match flow, activation.invoked with
    | .proceed, some result =>
      if node.on.contains successEvent then occasion.notifySuccess result
      return { activation with invoked := none }
    | _, _ => return activation

/-- The state that a stored context names, if it is declared. -/
def persistedState? (definition : MachineDefinition) (context : Option Json) : Option String := do
  let state ← (← (← context).field? "state").string?
  if definition.states.contains state then some state else none

/-- Start a machine: resume in the state that the context names, else enter the first one. -/
def start (definition : MachineDefinition) (actor : Actor) (memory : Memory) : Pass Unit := do
  let context ← Pass.read actor.config.context .done
  match persistedState? definition context with
  | some state => .remember { memory with state := some state } (.done ())
  | none =>
    let occasion := occasion definition actor initialEvent
    let activation ← Activation.begin occasion
    let activation :=
      { activation with state := some definition.initial }.stageState definition.initial
    let activation ← enter definition occasion definition.initial activation
    let memory := { memory with lastResult := activation.result, passes := memory.passes + 1 }
    .remember memory (.done ())
    occasion.finish activation
    .remember { memory with state := some definition.initial } (.done ())

/-- Whether a candidate's guard is absent or holds. -/
def qualifies (activation : Activation) (event : Event) (candidate : Candidate) : Bool :=
  match candidate.guard with
  | none => true
  | some guard =>
    match activation.holds event guard with
    | .ok holds => holds
    | .error _ => false

/-- Keep the last so many transitions. -/
def lastTransitions (limit : Nat) (history : List Transition) : List Transition :=
  history.drop (history.length - limit)

/-- Leave a state: run its exit actions, then those of the transition unless the pass has
stopped. -/
def leave (occasion : Occasion) (node : StateNode) (candidate : Candidate)
    (activation : Activation) : Pass Activation.Step := do
  match ← activation.run occasion node.exit with
  | (.proceed, activation) => activation.run occasion candidate.actions
  | (.stop, activation) => return (.stop, activation)

/-- Arrive in a state: stage its name, and enter it if the pass goes on and the state changes
or the transition has actions of its own. -/
def arrive (definition : MachineDefinition) (occasion : Occasion) (source : String)
    (candidate : Candidate) (flow : Flow) (activation : Activation) : Pass Activation :=
  let target := candidate.target
  let activation := { activation with state := some target }.stageState target
  if flow = .proceed ∧ (target ≠ source ∨ candidate.actions ≠ []) then
    enter definition occasion target activation
  else .done activation

/-- Take a transition from a state. -/
def take (definition : MachineDefinition) (limit : Nat) (suppressed : List String)
    (actor : Actor) (event : Event) (memory : Memory) (source : String) (node : StateNode)
    (candidate : Candidate) (activation : Activation) : Pass (Activation × Dispatch) := do
  let occasion := occasion definition actor event
  let target := candidate.target
  let memory := { memory with state := some target }
  .remember memory (.done ())
  let (flow, activation) ← leave occasion node candidate activation
  let history := lastTransitions limit (memory.history ++ [⟨source, target, event.name⟩])
  let memory := { memory with history }
  .remember memory (.done ())
  let activation ← arrive definition occasion source candidate flow activation
  let memory := { memory with
    lastEvent := event.payload, lastResult := activation.result, passes := memory.passes + 1 }
  .remember memory (.done ())
  return (activation, {
    handled := true
    rerender := (source != target || activation.actionsRun > 0) && !suppressed.contains target })

/-- The state that a machine is in, with its candidates for an event, if it has any. -/
def candidates? (definition : MachineDefinition) (memory : Memory) (event : Event) :
    Option (String × StateNode × List Candidate) := do
  let state ← memory.state
  let node ← definition.states.find? state
  let candidates ← node.on.find? event.name
  return (state, node, candidates)

/-- The work of a pass, all but its end: take the first transition that qualifies, if one
does. -/
def work (definition : MachineDefinition) (limit : Nat) (suppressed : List String)
    (actor : Actor) (memory : Memory) (event : Event) :
    Pass (Option (Activation × Dispatch)) := do
  match candidates? definition memory event with
  | none => return none
  | some (state, node, candidates) =>
    let activation ← Activation.begin (occasion definition actor event)
    let activation := { activation with state := some state }
    match candidates.find? (qualifies activation event) with
    | none => return none
    | some candidate =>
      return some
        (← take definition limit suppressed actor event memory state node candidate activation)

end Troupe.Machine
