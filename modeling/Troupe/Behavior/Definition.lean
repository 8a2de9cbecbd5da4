import Troupe.Action.Named
import Troupe.Config

/-!
# Behavior definitions

A behavior is a state machine or a process.  A machine has states with entry and exit actions
and, for each event, candidate transitions; a process has one list of actions for each event.
Both may name lists of actions.  A definition is checked in full when it is loaded.
-/

namespace Troupe

/-- One way on from a state. -/
structure Candidate where
  /-- State that it leads to. -/
  target : String
  /-- Condition, if there is one. -/
  guard : Option Guard := none
  /-- Actions on the way. -/
  actions : List Action := []

/-- A state of a machine. -/
structure StateNode where
  /-- Actions on entering. -/
  entry : List Action
  /-- Actions on leaving. -/
  exit : List Action
  /-- Candidate transitions by event. -/
  on : Table String (List Candidate)

/-- The definition of a state machine. -/
structure MachineDefinition where
  /-- First state. -/
  initial : String
  /-- States by name. -/
  states : Table String StateNode
  /-- Named lists of actions. -/
  named : NamedActions

/-- The definition of a process. -/
structure ProcessDefinition where
  /-- Actions by event. -/
  handlers : Table String (List Action)
  /-- Named lists of actions. -/
  named : NamedActions

namespace Candidate

/-- Read a transition: a state name, or an object with a target. -/
def ofJson (value : Json) : Except ConfigError Candidate :=
  match value with
  | .str target => .ok { target }
  | .obj fields =>
    match Assoc.find? "target" fields with
    | some (.str target) => do
      let guard ← match Assoc.find? "guard" fields with
        | none => .ok none
        | some guard => (Guard.ofJson guard).map some
      return { target, guard, actions := ← Action.listOf (Assoc.find? "actions" fields) }
    | _ => .error (.invalidBehavior s!"transition {value.text} lacks a target")
  | other =>
    .error (.invalidBehavior s!"transition must be a state name or object, found {other.text}")

/-- Read the candidates for one event: a list, or a single transition. -/
def listOf (value : Json) : Except ConfigError (List Candidate) :=
  match value with
  | .arr items => items.mapM ofJson
  | single => return [← ofJson single]

end Candidate

namespace StateNode

/-- Read the candidates of a state by event. -/
def onOf (name : String) : Option Json → Except ConfigError (Table String (List Candidate))
  | none => .ok ∅
  | some (.obj fields) => do
    let entries ← fields.mapM fun field => do
      let candidates ← Candidate.listOf field.2
      return (field.1, candidates)
    return Table.ofList entries
  | some _ => .error (.invalidBehavior s!"'on' of state '{name}' must be an object")

/-- Read a state. -/
def ofJson (name : String) (value : Json) : Except ConfigError StateNode :=
  match value with
  | .obj fields => do
    let entry ← Action.listOf (Assoc.find? "entry" fields)
    let exit ← Action.listOf (Assoc.find? "exit" fields)
    return ⟨entry, exit, ← onOf name (Assoc.find? "on" fields)⟩
  | _ => .error (.invalidBehavior s!"state '{name}' must be an object")

/-- All candidates of a state. -/
def candidates (node : StateNode) : List Candidate := node.on.entries.flatMap Prod.snd

end StateNode

namespace MachineDefinition

/-- A state's references are declared and its transitions lead to declared states. -/
def checkState (definition : MachineDefinition) (name : String) (node : StateNode) :
    Except ConfigError Unit := do
  definition.named.checkReferences node.entry
  definition.named.checkReferences node.exit
  node.candidates.forM fun candidate => do
    if !definition.states.contains candidate.target then
      throw (.unknownState name candidate.target)
    definition.named.checkReferences candidate.actions

/-- Read and check the definition of a machine. -/
def ofJson (value : Json) : Except ConfigError MachineDefinition := do
  let initial ← match (value.field? "initial").bind Json.string? with
    | some initial => .ok initial
    | none => .error (.invalidBehavior "state machine requires 'initial'")
  let states ← match (value.field? "states").bind Json.fields? with
    | some states => .ok states
    | none => .error (.invalidBehavior "state machine requires 'states'")
  let named ← NamedActions.ofJson (value.field? "actions")
  let nodes ← states.mapM fun field => do
    let node ← StateNode.ofJson field.1 field.2
    return (field.1, node)
  let definition : MachineDefinition := ⟨initial, Table.ofList nodes, named⟩
  if !definition.states.contains initial then
    throw (.invalidBehavior s!"initial state '{initial}' is not declared")
  definition.states.entries.forM fun entry => definition.checkState entry.1 entry.2
  return definition

end MachineDefinition

namespace ProcessDefinition

/-- Read and check the definition of a process. -/
def ofJson (value : Json) : Except ConfigError ProcessDefinition := do
  let named ← NamedActions.ofJson (value.field? "actions")
  let fields ← match value.field? "handlers" with
    | none => .ok []
    | some .null => .ok []
    | some (.obj fields) => .ok fields
    | some other =>
      .error (.invalidBehavior s!"'handlers' must be an object, found {other.text}")
  let handlers ← fields.mapM fun field => do
    let list ← Action.listOf (some field.2)
    named.checkReferences list
    return (field.1, list)
  return ⟨Table.ofList handlers, named⟩

end ProcessDefinition

/-- A behavior: its definition with the settings that it obeys. -/
inductive Behavior where
  /-- A state machine. -/
  | machine (definition : MachineDefinition) (historyLimit : Nat) (suppressed : List String)
  /-- A process. -/
  | process (definition : ProcessDefinition) (suppressed : List String)

namespace Behavior

/-- The word for a kind of behavior. -/
def kind : Behavior → String
  | .machine .. => "machine"
  | .process .. => "process"

/-- Load a behavior from its definition. -/
def load (definition : Json) (config : Config) : Except ConfigError Behavior :=
  match (definition.field? "kind").bind Json.string? with
  | none => .error (.invalidBehavior "missing 'kind'")
  | some "machine" =>
    return .machine (← MachineDefinition.ofJson definition) config.historyLimit.toNat
      config.suppressedStates
  | some "process" =>
    return .process (← ProcessDefinition.ofJson definition) config.suppressedStates
  | some other => .error (.invalidBehavior s!"unknown behavior kind '{other}'")

end Behavior

end Troupe
