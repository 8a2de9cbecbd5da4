import Troupe.Proofs.Behavior.Loading
import Troupe.Proofs.Behavior.StateField
import Troupe.Proofs.Json.Reading
import Troupe.Proofs.Pass.Exchanges
import Troupe.Proofs.Table

/-!
# The machine with one state that has a process's handlers

Every event that the process handles leads the machine from its one state back to it, by the
actions of the handler.  Both are given as definitions to be loaded, and as what they load to.

## Main results

* `oneState_ofJson`: if the process is loaded, so is the machine.
-/

namespace Troupe

/-! ## The two definitions -/

/-- The definition of a process with these handlers. -/
def processOf (handlers : List (String × Json)) (actions : Json) : Json :=
  .record [("kind", .str "process"), ("handlers", .obj handlers), ("actions", actions)]

/-- The transitions that lead back to a state by the actions of handlers. -/
def transitionsOf (state : String) (handlers : List (String × Json)) : List (String × Json) :=
  handlers.map fun handler =>
    (handler.1, .record [("target", .str state), ("actions", handler.2)])

/-- The definition of a machine with one state, in which every event leads back to the state by
the actions of its handler. -/
def oneStateOf (state : String) (handlers : List (String × Json)) (actions : Json) : Json :=
  .record [("kind", .str "machine"), ("initial", .str state),
    ("states", .record [(state, .record [("on", .obj (transitionsOf state handlers))])]),
    ("actions", actions)]

/-- The transition from a state back to it. -/
def Candidate.back (state : String) (actions : List Action) : Candidate :=
  ⟨state, none, actions⟩

/-- A state with nothing but transitions back to it. -/
def StateNode.loop (state : String) (handlers : Table String (List Action)) : StateNode where
  entry := []
  exit := []
  on := .ofList (handlers.entries.map fun handler => (handler.1, [Candidate.back state handler.2]))

/-- The machine with one state that has the handlers of a process. -/
def ProcessDefinition.oneState (definition : ProcessDefinition) (state : String) :
    MachineDefinition where
  initial := state
  states := .ofList [(state, .loop state definition.handlers)]
  named := definition.named

lemma StateNode.find?_loop (state : String) (handlers : Table String (List Action))
    (event : String) : (StateNode.loop state handlers).on.find? event =
      (handlers.find? event).map fun actions => [Candidate.back state actions] := by
  rw [loop, Table.find?_ofList, ← List.map_reverse,
    Assoc.find?_map_value fun actions => [Candidate.back state actions],
    Assoc.find?_reverse _ (Assoc.nodup_of_sorted handlers.sorted)]
  rfl

lemma ProcessDefinition.find?_oneState (definition : ProcessDefinition) (state : String) :
    (definition.oneState state).states.find? state = some (.loop state definition.handlers) := by
  simp [oneState, Table.find?_ofList, Assoc.find?_cons]

section Fields

variable (state : String) (handlers : List (String × Json)) (actions : Json)

lemma field?_processOf_kind :
    ((processOf handlers actions).field? "kind").bind Json.string? = some "process" := by
  simp [processOf, Json.field?_record, Assoc.find?_cons, Json.string?]

lemma field?_processOf_handlers :
    (processOf handlers actions).field? "handlers" = some (.obj handlers) := by
  simp [processOf, Json.field?_record, Assoc.find?_cons]

lemma field?_processOf_actions : (processOf handlers actions).field? "actions" = some actions := by
  simp [processOf, Json.field?_record, Assoc.find?_cons]

lemma field?_oneStateOf_kind :
    ((oneStateOf state handlers actions).field? "kind").bind Json.string? = some "machine" := by
  simp [oneStateOf, Json.field?_record, Assoc.find?_cons, Json.string?]

lemma field?_oneStateOf_initial :
    ((oneStateOf state handlers actions).field? "initial").bind Json.string? = some state := by
  simp [oneStateOf, Json.field?_record, Assoc.find?_cons, Json.string?]

lemma field?_oneStateOf_states :
    ((oneStateOf state handlers actions).field? "states").bind Json.fields? =
      some [(state, .record [("on", .obj (transitionsOf state handlers))])] := by
  rw [oneStateOf, Json.field?_record]
  rfl

lemma field?_oneStateOf_actions :
    (oneStateOf state handlers actions).field? "actions" = some actions := by
  simp [oneStateOf, Json.field?_record, Assoc.find?_cons]

end Fields

lemma Candidate.ofJson_back {state : String} {list : Json} {actions : List Action}
    (read : Action.listOf (some list) = .ok actions) :
    ofJson (.record [("target", .str state), ("actions", list)]) = .ok (back state actions) := by
  have target : Assoc.find? "target" (Assoc.ofList [("target", .str state), ("actions", list)]) =
      some (.str state) := by
    simp [Assoc.find?_ofList, Assoc.find?_cons]
  have guard : Assoc.find? "guard" (Assoc.ofList [("target", .str state), ("actions", list)]) =
      none := by
    simp [Assoc.find?_ofList, Assoc.find?_cons]
  have actions : Assoc.find? "actions" (Assoc.ofList [("target", .str state), ("actions", list)]) =
      some list := by
    simp [Assoc.find?_ofList, Assoc.find?_cons]
  simp only [Json.record, ofJson, target, guard, actions, read]
  rfl

lemma StateNode.ofJson_loop {state : String} {handlers : List (String × Json)}
    {named : NamedActions} {lists : List (String × List Action)}
    (read : handlers.mapM (ProcessDefinition.handler named) = .ok lists) :
    ofJson state (.record [("on", .obj (transitionsOf state handlers))]) =
      .ok (loop state (.ofList lists)) := by
  have transitions : (transitionsOf state handlers).mapM (fun field => do
        let candidates ← Candidate.listOf field.2
        return (field.1, candidates)) =
      .ok (lists.map fun entry => (entry.1, [Candidate.back state entry.2])) := by
    refine mapM_eq_ok.2 (List.forall₂_map_left_iff.2 (List.forall₂_map_right_iff.2 ?_))
    refine (mapM_eq_ok.1 read).imp fun field entry read => ?_
    obtain ⟨event, list, -⟩ := ProcessDefinition.handler_eq_ok.1 read
    have single : Candidate.listOf (.record [("target", .str state), ("actions", field.2)]) =
        .ok [Candidate.back state entry.2] := by
      change (Candidate.ofJson _ >>= fun candidate => .ok [candidate]) = _
      rw [Candidate.ofJson_back list]
      rfl
    change (Candidate.listOf _ >>= _) = _
    rw [single, event]
    rfl
  have table : Table.ofList (lists.map fun entry => (entry.1, [Candidate.back state entry.2])) =
      (loop state (.ofList lists)).on := by
    refine Table.ext_find? fun event => ?_
    rw [find?_loop, Table.find?_ofList, Table.find?_ofList, ← List.map_reverse]
    exact Assoc.find?_map_value (fun actions => [Candidate.back state actions]) event lists.reverse
  change (onOf state (some (.obj (transitionsOf state handlers))) >>= fun on => _) = _
  change ((_ >>= _) >>= _) = _
  rw [transitions]
  change Except.ok (StateNode.mk [] [] (Table.ofList _)) = _
  rw [table]
  rfl

/-- The references of a state with nothing but transitions back to it are declared, if those of
the handlers are. -/
lemma checkState_loop {definition : ProcessDefinition} {state : String}
    (checked : ∀ event actions, definition.handlers.find? event = some actions →
      definition.named.checkReferences actions = .ok ()) :
    (definition.oneState state).checkState state (.loop state definition.handlers) = .ok () := by
  refine MachineDefinition.checkState_eq_ok.2 ⟨rfl, rfl, fun candidate mem => ?_⟩
  obtain ⟨⟨event, candidates⟩, listed, mem⟩ := List.mem_flatMap.1 mem
  have found := Table.mem_entries.1 listed
  rw [StateNode.find?_loop] at found
  obtain ⟨actions, handled, rfl⟩ := Option.map_eq_some_iff.1 found
  obtain rfl := List.mem_singleton.1 mem
  refine ⟨?_, checked event actions handled⟩
  exact Table.contains_iff.2 ⟨_, definition.find?_oneState state⟩

/-- A machine with one state is read if the process with its handlers is. -/
lemma oneState_ofJson {state : String} {handlers : List (String × Json)} {actions : Json}
    {definition : ProcessDefinition}
    (read : ProcessDefinition.ofJson (processOf handlers actions) = .ok definition) :
    MachineDefinition.ofJson (oneStateOf state handlers actions) =
      .ok (definition.oneState state) := by
  rw [ProcessDefinition.ofJson_eq_ok (field?_processOf_handlers _ _), field?_processOf_actions]
    at read
  obtain ⟨named, lists, read, same⟩ := read
  have node : MachineDefinition.namedNode
      (state, .record [("on", .obj (transitionsOf state handlers))]) =
      .ok (state, .loop state definition.handlers) := by
    rw [MachineDefinition.namedNode, StateNode.ofJson_loop read, same]
    rfl
  have checked (event : String) (actions : List Action)
      (handled : definition.handlers.find? event = some actions) :
      definition.named.checkReferences actions = .ok () := by
    rw [same, Table.find?_ofList] at handled
    have mem := List.mem_reverse.1 (Assoc.mem_of_find?_eq_some handled)
    obtain ⟨field, -, passed⟩ := exists_of_mem_mapM read mem
    exact (ProcessDefinition.handler_eq_ok.1 passed).2.2
  refine MachineDefinition.ofJson_eq_ok.2 ⟨field?_oneStateOf_initial .., ?_,
    ⟨_, [(state, .loop state definition.handlers)], field?_oneStateOf_states .., ?_, rfl⟩, ?_, ?_⟩
  · rw [field?_oneStateOf_actions]
    exact named
  · exact mapM_eq_ok.2 (.cons node .nil)
  · exact Table.contains_iff.2 ⟨_, definition.find?_oneState state⟩
  · intro entry mem
    obtain rfl := List.mem_singleton.1 mem
    exact checkState_loop checked

end Troupe
