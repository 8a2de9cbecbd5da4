import Troupe.Behavior.Basic
import Troupe.Proofs.Except
import Troupe.Proofs.Table

/-!
# What a loaded definition is like

A definition is read part by part, and reading ends at the first part that is malformed.  So
when a definition is read, each of its parts is, and every check was passed.

## Main results

* `MachineDefinition.declared_of_ofJson`: a machine's first state and the states that its
  transitions lead to are declared;
* `MachineDefinition.isObject_of_ofJson`: the patches among its entry actions are objects;
* `Behavior.checkCycles_of_load`: no named list leads back to itself.
-/

namespace Troupe

/-! ## Actions -/

namespace Action

/-- A patch that is read is an object. -/
lemma isObject_of_ofTag {tag : ActionTag} {body patch : Json}
    (read : ofTag tag body = .ok (.ctx patch)) : patch.isObject = true := by
  cases tag with
  | ctx =>
    rw [ofTag] at read
    split at read
    · cases read
      assumption
    · cases read
  | named => cases body <;> cases read
  | invoke =>
    cases body with
    | obj fields =>
      obtain ⟨_, -, done⟩ := bind_eq_ok.1 read
      cases done
    | _ => cases read
  | _ =>
    obtain ⟨_, -, done⟩ := bind_eq_ok.1 read
    cases done

lemma isObject_of_ofJson {value patch : Json} (read : ofJson value = .ok (.ctx patch)) :
    patch.isObject = true := by
  unfold ofJson at read
  split at read
  · cases read
  · dsimp only at read
    split at read
    · split at read
      · exact isObject_of_ofTag read
      · cases read
    · cases read
  · cases read

lemma isObject_of_listOf {value : Option Json} {actions : List Action} {patch : Json}
    (read : listOf value = .ok actions) (mem : .ctx patch ∈ actions) : patch.isObject = true := by
  unfold listOf at read
  split at read
  · cases read
    cases mem
  · cases read
    cases mem
  · obtain ⟨item, -, read⟩ := exists_of_mem_mapM read mem
    exact isObject_of_ofJson read
  · obtain ⟨action, single, done⟩ := bind_eq_ok.1 read
    cases done
    cases List.mem_singleton.1 mem
    exact isObject_of_ofJson single

end Action

/-- What is found in a table that was read field by field was read from a field. -/
lemma exists_of_find?_mapM {α : Type} {f : String × Json → Except ConfigError (String × α)}
    {fields : List (String × Json)} {entries : List (String × α)} {name : String} {value : α}
    (read : fields.mapM f = .ok entries) (found : (Table.ofList entries).find? name = some value) :
    ∃ field ∈ fields, f field = .ok (name, value) := by
  rw [Table.find?_ofList] at found
  exact exists_of_mem_mapM read (List.mem_reverse.1 (Assoc.mem_of_find?_eq_some found))

namespace NamedActions

variable {value : Option Json} {named : NamedActions}

/-- Read a list under its name. -/
def namedList (field : String × Json) : Except ConfigError (String × List Action) := do
  let list ← Action.listOf (some field.2)
  return (field.1, list)

/-- Named lists that are read were read one by one, and their references were accepted. -/
lemma exists_of_ofJson (read : ofJson value = .ok named) :
    ∃ (fields : List (String × Json)) (lists : List (String × List Action)),
      fields.mapM namedList = .ok lists ∧ named = ⟨Table.ofList lists⟩ ∧
      named.checkCycles = .ok () := by
  have ofFields : ∀ fields : List (String × Json), (fields.mapM namedList >>= fun lists =>
      checkCycles ⟨Table.ofList lists⟩ >>= fun _ => pure ⟨Table.ofList lists⟩) = .ok named →
      ∃ (fields : List (String × Json)) (lists : List (String × List Action)),
        fields.mapM namedList = .ok lists ∧ named = ⟨Table.ofList lists⟩ ∧
        named.checkCycles = .ok () := by
    intro fields read
    obtain ⟨lists, all, read⟩ := bind_eq_ok.1 read
    obtain ⟨accepted, read⟩ := check_eq_ok.1 read
    cases read
    exact ⟨fields, lists, all, rfl, accepted⟩
  unfold ofJson at read
  split at read
  · exact ofFields [] read
  · exact ofFields [] read
  · exact ofFields _ read
  · cases read

/-- The patches in named lists that were read are objects. -/
lemma isObject_of_ofJson (read : ofJson value = .ok named) {name : String} {list : List Action}
    (found : named.find? name = some list) {patch : Json} (mem : .ctx patch ∈ list) :
    patch.isObject = true := by
  obtain ⟨fields, lists, all, rfl, -⟩ := exists_of_ofJson read
  obtain ⟨field, -, own⟩ := exists_of_find?_mapM all found
  obtain ⟨actions, single, done⟩ := bind_eq_ok.1 own
  cases done
  exact Action.isObject_of_listOf single mem

end NamedActions

/-! ## Machines -/

namespace StateNode

/-- Read the candidates for an event. -/
def listed (field : String × Json) : Except ConfigError (String × List Candidate) := do
  let candidates ← Candidate.listOf field.2
  return (field.1, candidates)

/-- The candidates of a state that was read were read from a field, in their order. -/
lemma exists_of_find?_ofJson {name : String} {content : Json} {node : StateNode}
    (read : ofJson name content = .ok node) {event : String} {candidates : List Candidate}
    (found : node.on.find? event = some candidates) :
    ∃ on declared, content.field? "on" = some (.obj on) ∧ (event, declared) ∈ on ∧
      Candidate.listOf declared = .ok candidates := by
  unfold ofJson at read
  split at read
  · rename_i fields
    obtain ⟨entry, -, read⟩ := bind_eq_ok.1 read
    obtain ⟨exit, -, read⟩ := bind_eq_ok.1 read
    obtain ⟨on, listing, done⟩ := bind_eq_ok.1 read
    cases done
    unfold onOf at listing
    split at listing
    · cases listing
      cases found
    · rename_i fields there
      obtain ⟨entries, all, done⟩ := bind_eq_ok.1 listing
      cases done
      obtain ⟨⟨key, declared⟩, mem, own⟩ := exists_of_find?_mapM all found
      obtain ⟨candidates, single, done⟩ := bind_eq_ok.1 own
      cases done
      exact ⟨fields, declared, there, mem, single⟩
    · cases listing
  · cases read

end StateNode

namespace MachineDefinition

/-- Every state that a machine can come to is declared. -/
structure Declared (definition : MachineDefinition) : Prop where
  /-- Its first state is declared, -/
  initial : definition.states.contains definition.initial = true
  /-- and so is every state that a transition leads to. -/
  targets : ∀ state node event candidates, definition.states.find? state = some node →
    node.on.find? event = some candidates → ∀ candidate ∈ candidates,
      definition.states.contains candidate.target = true

variable {definition : MachineDefinition}

lemma checkState_eq_ok {name : String} {node : StateNode} :
    definition.checkState name node = .ok () ↔
      definition.named.checkReferences node.entry = .ok () ∧
      definition.named.checkReferences node.exit = .ok () ∧
      ∀ candidate ∈ node.candidates, definition.states.contains candidate.target = true ∧
        definition.named.checkReferences candidate.actions = .ok () := by
  rw [checkState, check_eq_ok, check_eq_ok]
  simp only [forM_eq_ok, unless_eq_ok]

/-- Read a state under its name. -/
def namedNode (field : String × Json) : Except ConfigError (String × StateNode) := do
  let node ← StateNode.ofJson field.1 field.2
  return (field.1, node)

/-- A machine is read if its parts are and its references are declared. -/
lemma ofJson_eq_ok {value : Json} : ofJson value = .ok definition ↔
    (value.field? "initial").bind Json.string? = some definition.initial ∧
    NamedActions.ofJson (value.field? "actions") = .ok definition.named ∧
    (∃ states nodes, (value.field? "states").bind Json.fields? = some states ∧
      states.mapM namedNode = .ok nodes ∧ definition.states = Table.ofList nodes) ∧
    definition.states.contains definition.initial = true ∧
    ∀ entry ∈ definition.states.entries, definition.checkState entry.1 entry.2 = .ok () := by
  unfold ofJson
  cases (value.field? "initial").bind Json.string? with
  | none => simp
  | some initial =>
    cases (value.field? "states").bind Json.fields? with
    | none => simp
    | some states =>
      cases NamedActions.ofJson (value.field? "actions") with
      | error error => simp
      | ok named =>
        change (states.mapM namedNode >>= fun nodes => _) = _ ↔ _
        simp only [bind_eq_ok, unless_eq_ok, pure_eq_ok, Option.some.injEq, Except.ok.injEq]
        constructor
        · rintro ⟨nodes, read, known, ⟨⟩, checked, rfl⟩
          exact ⟨rfl, rfl, ⟨states, nodes, rfl, read, rfl⟩, known, forM_eq_ok.1 checked⟩
        · rintro ⟨rfl, rfl, ⟨_, nodes, rfl, read, same⟩, known, checked⟩
          obtain ⟨initial, states, named⟩ := definition
          cases same
          exact ⟨nodes, read, known, (), forM_eq_ok.2 checked, rfl⟩

/-- Every state that a loaded machine can come to is declared. -/
lemma declared_of_ofJson {value : Json} (loaded : ofJson value = .ok definition) :
    definition.Declared := by
  obtain ⟨-, -, -, known, checked⟩ := ofJson_eq_ok.1 loaded
  refine ⟨known, fun state node event candidates found listed candidate mem => ?_⟩
  have passed := checked (state, node) (Table.mem_entries.2 found)
  refine ((checkState_eq_ok.1 passed).2.2 candidate ?_).1
  exact List.mem_flatMap.2 ⟨(event, candidates), Table.mem_entries.2 listed, mem⟩

/-- A state of a loaded machine was read from the fields of a declared one. -/
lemma exists_of_find?_ofJson {value : Json} (loaded : ofJson value = .ok definition)
    {state : String} {node : StateNode} (found : definition.states.find? state = some node) :
    ∃ states content, value.field? "states" = some (.obj states) ∧ (state, content) ∈ states ∧
      StateNode.ofJson state content = .ok node := by
  obtain ⟨-, -, ⟨states, nodes, declared, read, same⟩, -⟩ := ofJson_eq_ok.1 loaded
  rw [same] at found
  obtain ⟨⟨name, content⟩, mem, named⟩ := exists_of_find?_mapM read found
  obtain ⟨own, read, done⟩ := bind_eq_ok.1 named
  cases done
  obtain ⟨object, field, fields⟩ := Option.bind_eq_some_iff.1 declared
  cases object with
  | obj => exact ⟨_, content, field, Option.some.inj fields ▸ mem, read⟩
  | _ => cases fields

/-- The patches among the entry actions of a loaded machine are objects. -/
lemma isObject_of_ofJson {value : Json} (loaded : ofJson value = .ok definition) {state : String}
    {node : StateNode} (found : definition.states.find? state = some node) {patch : Json}
    (mem : .ctx patch ∈ node.entry) : patch.isObject = true := by
  obtain ⟨_, _, -, -, read⟩ := exists_of_find?_ofJson loaded found
  unfold StateNode.ofJson at read
  split at read
  · obtain ⟨entry, listed, rest⟩ := bind_eq_ok.1 read
    obtain ⟨exit, -, rest⟩ := bind_eq_ok.1 rest
    obtain ⟨on, -, done⟩ := bind_eq_ok.1 rest
    cases done
    exact Action.isObject_of_listOf listed mem
  · cases read

end MachineDefinition

/-! ## Processes -/

namespace ProcessDefinition

variable {definition : ProcessDefinition}

/-- Read the actions for an event. -/
def handler (named : NamedActions) (field : String × Json) :
    Except ConfigError (String × List Action) := do
  let list ← Action.listOf (some field.2)
  named.checkReferences list
  return (field.1, list)

/-- A process with handlers is read if they are and their references are declared. -/
lemma ofJson_eq_ok {value : Json} {handlers : List (String × Json)}
    (fields : value.field? "handlers" = some (.obj handlers)) : ofJson value = .ok definition ↔
    NamedActions.ofJson (value.field? "actions") = .ok definition.named ∧
    ∃ lists, handlers.mapM (handler definition.named) = .ok lists ∧
      definition.handlers = Table.ofList lists := by
  unfold ofJson
  rw [fields]
  cases NamedActions.ofJson (value.field? "actions") with
  | error error => simp
  | ok named =>
    change (handlers.mapM (handler named) >>= fun lists => _) = _ ↔ _
    simp only [bind_eq_ok, pure_eq_ok, Except.ok.injEq]
    constructor
    · rintro ⟨lists, read, rfl⟩
      exact ⟨rfl, lists, read, rfl⟩
    · rintro ⟨rfl, lists, read, same⟩
      obtain ⟨handlers, named⟩ := definition
      cases same
      exact ⟨lists, read, rfl⟩

/-- The named lists and the handlers of a process that is read are. -/
lemma exists_of_ofJson {value : Json} (read : ofJson value = .ok definition) :
    NamedActions.ofJson (value.field? "actions") = .ok definition.named ∧
    ∃ (fields : List (String × Json)) (lists : List (String × List Action)),
      fields.mapM (handler definition.named) = .ok lists ∧
      definition.handlers = Table.ofList lists := by
  unfold ofJson at read
  obtain ⟨named, own, read⟩ := bind_eq_ok.1 read
  have ofFields : ∀ fields : List (String × Json), (fields.mapM (handler named) >>= fun lists =>
      pure ⟨Table.ofList lists, named⟩) = .ok definition →
      NamedActions.ofJson (value.field? "actions") = .ok definition.named ∧
      ∃ (fields : List (String × Json)) (lists : List (String × List Action)),
        fields.mapM (handler definition.named) = .ok lists ∧
        definition.handlers = Table.ofList lists := by
    intro fields read
    obtain ⟨lists, all, done⟩ := bind_eq_ok.1 read
    cases done
    exact ⟨own, fields, lists, all, rfl⟩
  dsimp only at read
  split at read
  · exact ofFields [] read
  · exact ofFields [] read
  · exact ofFields _ read
  · cases read

lemma handler_eq_ok {named : NamedActions} {field : String × Json} {entry : String × List Action} :
    handler named field = .ok entry ↔ entry.1 = field.1 ∧
      Action.listOf (some field.2) = .ok entry.2 ∧ named.checkReferences entry.2 = .ok () := by
  obtain ⟨event, list⟩ := entry
  rw [handler, bind_eq_ok]
  simp only [check_eq_ok, pure_eq_ok, Prod.mk.injEq]
  constructor
  · rintro ⟨_, read, checked, rfl, rfl⟩
    exact ⟨rfl, read, checked⟩
  · rintro ⟨rfl, read, checked⟩
    exact ⟨list, read, checked, rfl, rfl⟩

end ProcessDefinition

/-! ## Behaviors -/

namespace Behavior

variable {definition : Json} {config : Config}

lemma load_of_machine (kind : (definition.field? "kind").bind Json.string? = some "machine") :
    load definition config = (do
      return .machine (← MachineDefinition.ofJson definition) config.historyLimit.toNat
        config.suppressedStates) := by
  rw [load, kind]
  rfl

lemma load_of_process (kind : (definition.field? "kind").bind Json.string? = some "process") :
    load definition config = (do
      return .process (← ProcessDefinition.ofJson definition) config.suppressedStates) := by
  rw [load, kind]
  rfl

/-- A loaded machine is a definition that was read. -/
lemma ofJson_of_load {machine : MachineDefinition} {limit : Nat} {suppressed : List String}
    (loaded : load definition config = .ok (.machine machine limit suppressed)) :
    MachineDefinition.ofJson definition = .ok machine := by
  unfold load at loaded
  split at loaded
  · cases loaded
  · obtain ⟨read, same, done⟩ := bind_eq_ok.1 loaded
    cases done
    exact same
  · obtain ⟨read, same, done⟩ := bind_eq_ok.1 loaded
    cases done
  · cases loaded

/-- Loaded with other settings, a machine is the same. -/
lemma load_of_load {machine : MachineDefinition} {limit : Nat} {suppressed : List String}
    (loaded : load definition config = .ok (.machine machine limit suppressed)) (other : Config) :
    load definition other =
      .ok (.machine machine other.historyLimit.toNat other.suppressedStates) := by
  have read := ofJson_of_load loaded
  unfold load at loaded
  split at loaded
  · cases loaded
  · rename_i kind
    rw [load_of_machine kind, read]
    rfl
  · obtain ⟨_, _, done⟩ := bind_eq_ok.1 loaded
    cases done
  · cases loaded

/-- A loaded process is a definition that was read. -/
lemma ofJson_process_of_load {process : ProcessDefinition} {suppressed : List String}
    (loaded : load definition config = .ok (.process process suppressed)) :
    ProcessDefinition.ofJson definition = .ok process := by
  unfold load at loaded
  split at loaded
  · cases loaded
  · obtain ⟨read, same, done⟩ := bind_eq_ok.1 loaded
    cases done
  · obtain ⟨read, same, done⟩ := bind_eq_ok.1 loaded
    cases done
    exact same
  · cases loaded

/-- No named list of a loaded definition leads back to itself. -/
lemma checkCycles_of_load {behavior : Behavior} (loaded : load definition config = .ok behavior) :
    behavior.named.checkCycles = .ok () := by
  have named : NamedActions.ofJson (definition.field? "actions") = .ok behavior.named := by
    cases behavior with
    | machine => exact (MachineDefinition.ofJson_eq_ok.1 (ofJson_of_load loaded)).2.1
    | process => exact (ProcessDefinition.exists_of_ofJson (ofJson_process_of_load loaded)).1
  obtain ⟨_, _, -, -, accepted⟩ := NamedActions.exists_of_ofJson named
  exact accepted

/-- A definition that loads does so with any other settings. -/
lemma exists_load {behavior : Behavior} (loaded : load definition config = .ok behavior)
    (other : Config) : ∃ again, load definition other = .ok again := by
  cases behavior with
  | machine machine limit suppressed => exact ⟨_, load_of_load loaded other⟩
  | process process suppressed =>
    unfold load at loaded
    split at loaded
    · cases loaded
    · obtain ⟨_, _, done⟩ := bind_eq_ok.1 loaded
      cases done
    · rename_i kind
      obtain ⟨read, same, -⟩ := bind_eq_ok.1 loaded
      exact ⟨_, by rw [load_of_process kind, same]; rfl⟩
    · cases loaded

end Behavior

end Troupe
