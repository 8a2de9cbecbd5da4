import Troupe.Proofs.Behavior.Loading
import Troupe.Proofs.Behavior.StateField
import Troupe.Proofs.Pass.Exchanges

/-!
# The current state of a machine

A machine remembers the state that it is in, and stages its name in the context.  Exit actions
and the actions of a transition may stage what they like: the name is staged after them.  Entry
actions come after it, so they have to keep it.

## Main results

* `Machine.work_leaves`: the work of a pass stages the name of the state that is remembered
  after it;
* `Machine.enterFirst_leaves`: so does entering the first state.
-/

namespace Troupe

namespace MachineDefinition

variable {definition : MachineDefinition}

/-- No patch among the entry actions of a state, or in a named list that they lead to, has the
field `state`. -/
def EntriesSpareState (definition : MachineDefinition) : Prop :=
  ∀ state node, definition.states.find? state = some node →
    ∀ list, definition.named.Leads node.entry list →
      ∀ patch, .ctx patch ∈ list → patch.field? "state" = none

/-- No action that the entry actions of a state lead to changes the field `state`. -/
def EntriesKeepState (definition : MachineDefinition) : Prop :=
  ∀ state node, definition.states.find? state = some node →
    definition.named.KeepsState node.entry

/-- In a loaded machine, patches without the field do not change it. -/
lemma EntriesSpareState.keep {value : Json} (spare : definition.EntriesSpareState)
    (loaded : ofJson value = .ok definition) : definition.EntriesKeepState := by
  intro state node found list leads action mem
  obtain ⟨-, named, -⟩ := ofJson_eq_ok.1 loaded
  cases action with
  | ctx patch =>
    -- a text could resolve to a patch with the field, but only objects are loaded
    have object := leads.forall_mem (P := fun action => ∀ patch, action = .ctx patch →
        patch.isObject = true)
      (fun action mem patch same => isObject_of_ofJson loaded found (same ▸ mem))
      (fun name list found action mem patch same =>
        NamedActions.isObject_of_ofJson named found (same ▸ mem)) _ mem patch rfl
    have missing := spare state node found list leads patch mem
    rw [Json.eq_obj object] at missing ⊢
    simp only [Json.field?] at missing
    simp [Action.setsState, Assoc.contains, missing]
  | _ => rfl

end MachineDefinition

namespace Activation

variable {before after activation : Activation} {state : String} {told : Option String}

/-- Merging patches leaves the fields of the working copy in order. -/
lemma Later.sorted (later : before.Later after) (sorted : Assoc.Sorted before.working.fieldsOf) :
    Assoc.Sorted after.working.fieldsOf := by
  obtain ⟨-, patches, objects, working⟩ := later
  rw [working]
  refine List.foldlRecOn (motive := fun value : Json => Assoc.Sorted value.fieldsOf) patches _ sorted
    fun value sorted patch mem => ?_
  have object := objects patch mem
  rw [Json.eq_obj object]
  exact Json.sorted_mergeFields sorted _

/-- Merging patches leaves the working copy an object. -/
lemma Later.object (later : before.Later after) (object : before.working.isObject = true) :
    after.working.isObject = true := by
  obtain ⟨-, patches, objects, working⟩ := later
  exact working ▸ Json.isObject_foldl_merge object objects

/-- A working copy of a context in which the name of a state is staged. -/
structure Stages (activation : Activation) (context : Option Json) (state : String) : Prop where
  /-- The context was read, -/
  base : activation.base = (ofContext context).base
  /-- the working copy is an object, -/
  object : activation.working.isObject = true
  /-- and it names the state. -/
  names : Assoc.Sorted (ofContext context).base.fieldsOf → activation.working.Names state

/-- At first the working copy is what was read. -/
lemma ofContext_working (context : Option Json) :
    (ofContext context).working = (ofContext context).base := by
  unfold ofContext
  split <;> rfl

end Activation

namespace Machine

open Pass

variable {definition : MachineDefinition} {occasion : Occasion} {activation : Activation}
  {state : String} {told : Option String}

/-- Entering a state keeps its name. -/
lemma enter_steady (entries : definition.EntriesKeepState)
    (named : occasion.named = definition.named) (steady : activation.Steady state told) :
    (enter definition occasion state activation).Ensures fun last => last.Steady state told := by
  unfold enter
  split
  · exact steady
  · rename_i node found
    have fresh : Activation.Steady state told { activation with invoked := none } :=
      ⟨steady.names, steady.told⟩
    have keeps := named ▸ entries state node found
    refine ensures_bind (Activation.run_steady keeps fresh) fun step steady => ?_
    obtain ⟨flow, last⟩ := step
    dsimp only
    split
    · split
      · exact ensures_after _ fun _ => ⟨steady.names, steady.told⟩
      · exact ⟨steady.names, steady.told⟩
    · exact steady

/-- Arriving in a state stages its name. -/
lemma arrive_names (entries : definition.EntriesKeepState)
    (named : occasion.named = definition.named) (sorted : Assoc.Sorted activation.working.fieldsOf)
    (source : String) (candidate : Candidate) (flow : Flow) :
    (arrive definition occasion source candidate flow activation).Ensures fun last =>
      last.working.Names candidate.target := by
  -- whatever was staged before, the name is staged over it
  have staged : Activation.Steady candidate.target (some candidate.target)
      ({ activation with state := some candidate.target }.stageState candidate.target) :=
    ⟨Json.names_merge sorted candidate.target, rfl⟩
  unfold arrive
  dsimp only
  split
  · exact ensures_mono (enter_steady entries named staged) fun _ steady => steady.names
  · exact staged.names

/-- What the work of a machine's pass over a context comes to, with what is remembered after it:
nothing, or a state with the context as it was read, which is to be written, and in which the
name is staged of the state that is remembered. -/
def Leaves (definition : MachineDefinition) (memory : Memory) (context : Option Json)
    (outcome : Option Activation) (after : Memory) : Prop :=
  match outcome with
  | none => after = memory
  | some last => ∃ state, after.state = some state ∧ after.passes = memory.passes + 1 ∧
      definition.states.contains state = true ∧
      last.Stages context state

variable {actor : Actor} {event : Event} {memory after : Memory} {log : List Exchange}

/-- A transition commits, whatever its actions come to. -/
lemma take_commits {limit : Nat} {suppressed : List String} {source : String} {node : StateNode}
    {candidate : Candidate} {result : Activation × Dispatch}
    (yields : (take definition limit suppressed actor event memory source node candidate
      activation).Yields memory log result after) :
    result.2.handled = true ∧ after = { memory with
      state := some candidate.target
      history := lastTransitions limit
        (memory.history ++ [⟨source, candidate.target, event.name⟩])
      lastEvent := event.payload
      lastResult := result.1.result
      passes := memory.passes + 1 } := by
  obtain ⟨_, _, _, _, -, -, yields⟩ := yields_bind.1 yields
  obtain ⟨_, _, ⟨_, _⟩, _, -, -, yields⟩ := yields_bind.1 yields
  obtain ⟨_, _, _, _, -, -, yields⟩ := yields_bind.1 yields
  obtain ⟨_, _, _, _, -, -, yields⟩ := yields_bind.1 yields
  obtain ⟨_, _, _, _, -, remembers, yields⟩ := yields_bind.1 yields
  obtain ⟨-, -, rfl⟩ := yields_done.1 (yields_remember.1 remembers)
  obtain ⟨-, rfl, rfl⟩ := yields_done.1 yields
  exact ⟨rfl, rfl⟩

/-- A transition leads to the state that is remembered. -/
lemma take_yields {limit : Nat} {suppressed : List String} {source : String} {node : StateNode}
    {candidate : Candidate} {result : Activation × Dispatch}
    (yields : (take definition limit suppressed actor event memory source node candidate
      activation).Yields memory log result after) :
    after.state = some candidate.target ∧ after.passes = memory.passes + 1 := by
  obtain ⟨-, rfl⟩ := take_commits yields
  exact ⟨rfl, rfl⟩

/-- It stages the name of that state. -/
lemma take_names (entries : definition.EntriesKeepState) (limit : Nat) (suppressed : List String)
    (source : String) (node : StateNode) (candidate : Candidate)
    (sorted : Assoc.Sorted activation.working.fieldsOf) :
    (take definition limit suppressed actor event memory source node candidate
      activation).Ensures fun result => result.1.working.Names candidate.target := by
  refine ensures_after _ fun _ => ?_
  refine ensures_bind (leave_later _ _ node candidate) fun step left => ?_
  obtain ⟨flow, middle⟩ := step
  refine ensures_after _ fun _ => ?_
  refine ensures_bind (arrive_names entries rfl (left.sorted sorted) source candidate flow)
    fun last names => ?_
  exact ensures_after _ fun _ => names

lemma candidates?_eq_some {found : String × StateNode × List Candidate}
    (entered : candidates? definition memory event = some found) :
    memory.state = some found.1 ∧ definition.states.find? found.1 = some found.2.1 ∧
      found.2.1.on.find? event.name = some found.2.2 := by
  simp only [candidates?, Option.bind_eq_bind, Option.bind_eq_some_iff, Option.pure_def,
    Option.some.injEq] at entered
  obtain ⟨state, current, node, there, candidates, listed, rfl⟩ := entered
  exact ⟨current, there, listed⟩

/-- The work of a machine's pass is to do nothing, or it begins with reading the context and
stages the name of the state that is remembered after it. -/
theorem work_leaves (declared : definition.Declared) (entries : definition.EntriesKeepState)
    (limit : Nat) (suppressed : List String) (actor : Actor) (memory : Memory) (event : Event) :
    work definition limit suppressed actor memory event = .done none ∨
    ∃ next, work definition limit suppressed actor memory event = .read actor.config.context next ∧
      ∀ context log outcome after, (next context).Yields memory log outcome after →
        Leaves definition memory context (outcome.map Prod.fst) after := by
  cases entered : candidates? definition memory event with
  | none =>
    refine .inl ?_
    rw [work, entered]
    rfl
  | some found =>
    refine .inr ⟨_, by rw [work, entered]; rfl, fun context log outcome after yields => ?_⟩
    obtain ⟨-, there, listed⟩ := candidates?_eq_some entered
    obtain ⟨state, node, candidates⟩ := found
    dsimp only [Pass.bind] at yields
    split at yields
    · obtain ⟨-, rfl, rfl⟩ := yields_done.1 yields
      rfl
    · rename_i candidate qualifies
      obtain ⟨_, _, ⟨last, dispatch⟩, _, -, taken, done⟩ := yields_bind.1 yields
      obtain ⟨-, rfl, rfl⟩ := yields_done.1 done
      -- what is remembered shows in the exchanges, what is staged in every outcome
      obtain ⟨current, passes⟩ := take_yields taken
      have known := declared.targets _ _ _ _ there listed candidate
        (List.mem_of_find?_eq_some qualifies)
      obtain ⟨-, middle, leaving, arriving⟩ := taken.ensures
        (take_later definition _ limit suppressed actor event memory state node candidate)
      refine ⟨candidate.target, current, passes, known, arriving.base.trans leaving.base,
        arriving.object rfl, fun sorted => ?_⟩
      rw [← Activation.ofContext_working] at sorted
      exact taken.ensures (take_names entries limit suppressed state node candidate sorted)

/-- Enter the first state of a machine over a context. -/
def enterFirst (definition : MachineDefinition) (actor : Actor) (memory : Memory)
    (context : Option Json) : Pass Activation := do
  let activation :=
    { Activation.ofContext context with state := some definition.initial }.stageState
      definition.initial
  let activation ←
    enter definition (Machine.occasion definition actor initialEvent) definition.initial activation
  .remember { memory with lastResult := activation.result, passes := memory.passes + 1 }
    (.done activation)

/-- A machine starts with a look at the context.  If that names a state of the machine, there is
nothing else to do; if not, the first state is entered, in a pass that ends like any other. -/
lemma start_eq (definition : MachineDefinition) (actor : Actor) (memory : Memory) :
    start definition actor memory = .read actor.config.context fun context =>
      match persistedState? definition context with
      | some state => .remember { memory with state := some state } (.done ())
      | none => .read actor.config.context fun context =>
        enterFirst definition actor memory context >>= fun last =>
          (Machine.occasion definition actor initialEvent).finish last >>= fun _ =>
            let memory := { memory with
              state := some definition.initial
              lastResult := last.result
              passes := memory.passes + 1 }
            .remember memory (.done ()) := by
  refine congrArg (Pass.read _) (funext fun context => ?_)
  dsimp only [Pass.bind]
  cases persistedState? definition context with
  | some state => rfl
  | none =>
    refine congrArg (Pass.read _) (funext fun context => ?_)
    rw [enterFirst, bind_assoc]
    rfl

/-- Entering the first state stages its name. -/
lemma enterFirst_leaves (entries : definition.EntriesKeepState)
    {context : Option Json} {last : Activation}
    (yields : (enterFirst definition actor memory context).Yields memory log last after) :
    last.Stages context definition.initial := by
  obtain ⟨_, _, entered, _, -, yields, done⟩ := yields_bind.1 yields
  obtain ⟨-, rfl, -⟩ := yields_done.1 (yields_remember.1 done)
  have later := yields.ensures (enter_later definition _ _ _)
  refine ⟨later.base, later.object rfl, fun sorted => ?_⟩
  rw [← Activation.ofContext_working] at sorted
  have staged : Activation.Steady definition.initial (some definition.initial)
      ({ Activation.ofContext context with state := some definition.initial }.stageState
        definition.initial) := ⟨Json.names_merge sorted _, rfl⟩
  exact (yields.ensures (enter_steady entries rfl staged)).names

end Machine

end Troupe
