import Mathlib.Data.List.Chain
import Troupe.Proofs.Behavior.Choice
import Troupe.Proofs.Json.ThreeWay
import Troupe.Proofs.Pass.Exchanges
import Troupe.Proofs.Store.Writes

/-!
# The course of a machine

A machine is loaded, started, and handles events one after the other.  Some of them have it commit a
transition.  What it remembers agrees with its definition and with the transitions that it has
committed: it is in a declared state, to which the latest one led, and its history holds the latest
ones, as many as it may.

A transition is committed whatever its actions come to.  If the exit actions of the state or the
actions of the transition stop the pass, no entry action runs, and the context is written with the
name of the new state all the same.

## Main results

* `Behavior.Course.coherent`: what a machine remembers in its course;
* `Machine.send_routes`: what a pass does that handles an event;
* `Machine.Route.Runs.cutsShort`: what it does when it is stopped on the way.
-/

namespace Troupe

open Pass

/-! ## Transitions that are committed -/

/-- The transition that handling an event has committed: from the state before it to the state after
it, if it was handled. -/
def Memory.commits (before : Memory) (event : Event) (dispatch : Dispatch) (after : Memory) :
    List Transition :=
  match dispatch.handled, before.state, after.state with
  | true, some source, some target => [⟨source, target, event.name⟩]
  | _, _, _ => []

/-- The course of a behavior: what it remembers when it has been loaded, started and given events,
with the transitions that were committed since it was loaded, the oldest first.  Nothing is said of
the answers that its passes get. -/
inductive Behavior.Course (behavior : Behavior) (actor : Actor) : List Transition → Memory → Prop
  /-- It was loaded. -/
  | loaded : Course behavior actor [] behavior.initialMemory
  /-- It was started. -/
  | started {log : List Exchange} {after : Memory} :
    (behavior.start actor behavior.initialMemory).Yields behavior.initialMemory log () after →
    Course behavior actor [] after
  /-- It was given an event. -/
  | handled {committed : List Transition} {before after : Memory} {event : Event}
    {log : List Exchange} {dispatch : Dispatch} :
    Course behavior actor committed before →
    (behavior.send actor before event).Yields before log dispatch after →
    Course behavior actor (committed ++ before.commits event dispatch after) after

/-- A transition is one that the definition declares. -/
def MachineDefinition.Declares (definition : MachineDefinition) (record : Transition) : Prop :=
  ∃ node candidates candidate, definition.states.find? record.source = some node ∧
    node.on.find? record.event = some candidates ∧ candidate ∈ candidates ∧
    candidate.target = record.target

namespace Machine

variable {definition : MachineDefinition} {limit : Nat} {suppressed : List String}
variable {actor : Actor} {event : Event} {before after memory : Memory} {dispatch : Dispatch}
variable {log : List Exchange} {committed : List Transition}

/-! ## The history -/

lemma lastTransitions_suffix (limit : Nat) (history : List Transition) :
    lastTransitions limit history <:+ history := List.drop_suffix _ _

lemma length_lastTransitions (limit : Nat) (history : List Transition) :
    (lastTransitions limit history).length = min limit history.length := by
  rw [lastTransitions, List.length_drop]
  omega

/-- To keep the last ones, it is enough to have kept the last ones before. -/
lemma lastTransitions_append (limit : Nat) (history : List Transition) (record : Transition) :
    lastTransitions limit (lastTransitions limit history ++ [record]) =
      lastTransitions limit (history ++ [record]) := by
  -- both are suffixes of the longer list, and of one length
  have kept : lastTransitions limit history ++ [record] <:+ history ++ [record] := by
    obtain ⟨dropped, eq⟩ := lastTransitions_suffix limit history
    exact ⟨dropped, by rw [← List.append_assoc, eq]⟩
  have first := (lastTransitions_suffix limit (lastTransitions limit history ++ [record])).trans kept
  have second := lastTransitions_suffix limit (history ++ [record])
  have length : (lastTransitions limit (lastTransitions limit history ++ [record])).length =
      (lastTransitions limit (history ++ [record])).length := by
    simp only [length_lastTransitions, List.length_append, List.length_singleton]
    omega
  exact (List.suffix_of_suffix_length_le first second length.le).eq_of_length length

/-! ## What is remembered -/

/-- What a machine remembers agrees with its definition and with the transitions that it has
committed. -/
structure Coherent (definition : MachineDefinition) (limit : Nat) (committed : List Transition)
    (memory : Memory) : Prop where
  /-- It is in a declared state. -/
  current : ∃ state, memory.state = some state ∧ definition.states.contains state = true
  /-- Every transition was a declared one, -/
  declared : ∀ record ∈ committed, definition.Declares record
  /-- and began where the one before it had ended. -/
  chained : committed.IsChain fun first next => first.target = next.source
  /-- The latest one led to the current state. -/
  latest : ∀ record ∈ committed.getLast?, memory.state = some record.target
  /-- The history is the latest ones. -/
  history : memory.history = lastTransitions limit committed

namespace Coherent

/-- Nothing has been committed. -/
lemma of_state {state : String} (current : memory.state = some state)
    (known : definition.states.contains state = true) (history : memory.history = []) :
    Coherent definition limit [] memory where
  current := ⟨state, current, known⟩
  declared := nofun
  chained := .nil
  latest := nofun
  history := history.trans List.drop_nil.symm

/-- A transition is committed. -/
lemma commit (coherent : Coherent definition limit committed before) {record : Transition}
    (source : before.state = some record.source) (declares : definition.Declares record)
    (known : definition.states.contains record.target = true)
    (target : after.state = some record.target)
    (history : after.history = lastTransitions limit (before.history ++ [record])) :
    Coherent definition limit (committed ++ [record]) after where
  current := ⟨_, target, known⟩
  declared := List.forall_mem_append.2 ⟨coherent.declared, List.forall_mem_singleton.2 declares⟩
  chained := by
    refine List.isChain_append.2 ⟨coherent.chained, List.isChain_singleton _, ?_⟩
    intro last ends next begins
    cases begins
    exact Option.some.inj ((coherent.latest last ends).symm.trans source)
  latest last ends := by
    rw [List.getLast?_concat] at ends
    cases ends
    exact target
  history := by rw [history, coherent.history, lastTransitions_append]

end Coherent

/-! ## What a pass does -/

/-- The way of a pass that takes a transition. -/
structure Route where
  /-- The context as it is read. -/
  context : Option Json
  /-- The state that is left. -/
  source : String
  /-- Its node. -/
  node : StateNode
  /-- The candidate that is taken. -/
  candidate : Candidate
  /-- What the exit actions and those of the transition exchange, -/
  leaving : List Exchange
  /-- whether they proceed to their end, -/
  flow : Flow
  /-- and the state of the pass after them. -/
  middle : Activation
  /-- What the entry actions exchange, -/
  arriving : List Exchange
  /-- and the state of the pass after them. -/
  last : Activation
  /-- What the end of the pass exchanges. -/
  ending : List Exchange

namespace Route

variable {route : Route}

/-- The context as it is read, with the state that guards are told of. -/
def start (route : Route) : Activation :=
  { Activation.ofContext route.context with state := some route.source }

/-- A pass goes this way. -/
structure Runs (route : Route) (definition : MachineDefinition) (limit : Nat) (actor : Actor)
    (before : Memory) (event : Event) (log : List Exchange) (after : Memory) : Prop where
  /-- The candidate is the first one that qualifies. -/
  chosen : Chosen definition before (.asContext route.context) event route.source route.node
    route.candidate
  /-- The context is read, and then one part comes after the other: -/
  exchanges : log = .read actor.config.context route.context ::
    (route.leaving ++ (route.arriving ++ route.ending))
  /-- the state is left, -/
  leaves : ∀ memory, (leave (occasion definition actor event) route.node route.candidate
    route.start).Yields memory route.leaving (route.flow, route.middle) memory
  /-- the other one is entered, -/
  arrives : ∀ memory, (arrive definition (occasion definition actor event) route.source
    route.candidate route.flow route.middle).Yields memory route.arriving route.last memory
  /-- and the context is written. -/
  ends : ∀ memory, ((occasion definition actor event).finish route.last).Yields memory
    route.ending () memory
  /-- The transition is committed. -/
  commits : after = { before with
    state := some route.candidate.target
    history := lastTransitions limit
      (before.history ++ [⟨route.source, route.candidate.target, event.name⟩])
    lastEvent := event.payload
    lastResult := route.last.result
    passes := before.passes + 1 }

end Route

/-- Taking a transition, one leaves a state and arrives in another. -/
lemma take_parts {source : String} {node : StateNode} {candidate : Candidate}
    {activation : Activation} {outcome : Activation × Dispatch}
    (yields : (take definition limit suppressed actor event before source node candidate
      activation).Yields memory log outcome after) :
    ∃ leaving flow middle arriving, log = leaving ++ arriving ∧
      (∀ memory, (leave (occasion definition actor event) node candidate activation).Yields memory
        leaving (flow, middle) memory) ∧
      ∀ memory, (arrive definition (occasion definition actor event) source candidate flow
        middle).Yields memory arriving outcome.1 memory := by
  obtain ⟨_, _, _, _, eq₁, remembers, yields⟩ := yields_bind.1 yields
  obtain ⟨rfl, -, -⟩ := yields_done.1 (yields_remember.1 remembers)
  obtain ⟨leaving, _, ⟨flow, middle⟩, _, eq₂, leaves, yields⟩ := yields_bind.1 yields
  obtain ⟨_, _, _, _, eq₃, remembers, yields⟩ := yields_bind.1 yields
  obtain ⟨rfl, -, -⟩ := yields_done.1 (yields_remember.1 remembers)
  obtain ⟨arriving, _, last, _, eq₄, arrives, yields⟩ := yields_bind.1 yields
  obtain ⟨_, _, _, _, eq₅, remembers, yields⟩ := yields_bind.1 yields
  obtain ⟨rfl, -, -⟩ := yields_done.1 (yields_remember.1 remembers)
  obtain ⟨rfl, rfl, -⟩ := yields_done.1 yields
  refine ⟨leaving, flow, middle, arriving, by rw [eq₁, eq₂, eq₃, eq₄, eq₅]; simp, ?_, ?_⟩
  · exact (leaves.forgets (leave_acts _ node candidate _).not_remember).2
  · exact (arrives.forgets (arrive_acts definition _ source candidate flow _).not_remember).2

/-- A pass that handles an event takes a transition, and any other one leaves what is remembered. -/
theorem send_routes (yields : ((Behavior.machine definition limit suppressed).send actor before
    event).Yields before log dispatch after) :
    dispatch.handled = false ∧ after = before ∨
    dispatch.handled = true ∧
      ∃ route : Route, route.Runs definition limit actor before event log after := by
  obtain ⟨_, _, outcome, _, split, works, concludes⟩ := yields_bind.1 yields
  cases entered : candidates? definition before event with
  | none =>
    rw [Behavior.work, work, entered] at works
    obtain ⟨-, rfl, rfl⟩ := yields_done.1 works
    obtain ⟨-, rfl, rfl⟩ := yields_done.1 concludes
    exact .inl ⟨rfl, rfl⟩
  | some found =>
    obtain ⟨state, node, candidates⟩ := found
    rw [Behavior.work, work_of_candidates entered] at works
    obtain ⟨context, rest, eq, takes⟩ := yields_read.1 works
    dsimp only at takes
    split at takes
    · obtain ⟨-, rfl, rfl⟩ := yields_done.1 takes
      obtain ⟨-, rfl, rfl⟩ := yields_done.1 concludes
      exact .inl ⟨rfl, rfl⟩
    · rename_i candidate found
      rw [map_eq_pure_bind] at takes
      obtain ⟨_, _, ⟨last, result⟩, _, eq₁, takes, done⟩ := yields_bind.1 takes
      obtain ⟨rfl, rfl, rfl⟩ := yields_done.1 done
      obtain ⟨ending, _, ⟨⟩, _, eq₂, ends, done⟩ := yields_bind.1 concludes
      obtain ⟨rfl, rfl, rfl⟩ := yields_done.1 done
      obtain ⟨leaving, flow, middle, arriving, eq₃, leaves, arrives⟩ := take_parts takes
      obtain ⟨handled, committed⟩ := take_commits takes
      obtain ⟨same, ends, -⟩ := Occasion.finish_yields ends
      refine .inr ⟨handled, ⟨context, state, node, candidate, leaving, flow, middle, arriving, last,
        ending⟩, chosen_of_find? entered found, ?_, leaves, arrives, ends, same.trans committed⟩
      rw [split, eq, eq₁, eq₂, eq₃]
      simp

/-! ## The whole course -/

/-- A start leaves a machine in a declared state. -/
lemma start_coherent (known : definition.Declared) (fresh : memory.history = [])
    (yields : (start definition actor memory).Yields memory log () after) :
    Coherent definition limit [] after := by
  rw [start_eq] at yields
  obtain ⟨context, _, -, yields⟩ := yields_read.1 yields
  split at yields
  · rename_i state persisted
    obtain ⟨-, -, rfl⟩ := yields_done.1 (yields_remember.1 yields)
    obtain ⟨_, -, -, declared⟩ := persistedState?_eq_some.1 persisted
    exact .of_state rfl declared fresh
  · obtain ⟨_, _, -, yields⟩ := yields_read.1 yields
    obtain ⟨_, _, _, _, -, -, yields⟩ := yields_bind.1 yields
    obtain ⟨_, _, ⟨⟩, _, -, -, yields⟩ := yields_bind.1 yields
    obtain ⟨-, -, rfl⟩ := yields_done.1 (yields_remember.1 yields)
    exact .of_state rfl known.initial fresh

/-- Handling an event keeps what is remembered in agreement with the transitions. -/
lemma send_coherent (known : definition.Declared)
    (coherent : Coherent definition limit committed before)
    (yields : ((Behavior.machine definition limit suppressed).send actor before event).Yields before
      log dispatch after) :
    Coherent definition limit (committed ++ before.commits event dispatch after) after := by
  rcases send_routes yields with ⟨unhandled, rfl⟩ | ⟨handled, route, runs⟩
  · rw [Memory.commits, unhandled, List.append_nil]
    exact coherent
  · obtain ⟨early, late, listed, -⟩ := runs.chosen.first
    have mem : route.candidate ∈ early ++ route.candidate :: late := by simp
    have commits : before.commits event dispatch after =
        [⟨route.source, route.candidate.target, event.name⟩] := by
      rw [Memory.commits, handled, runs.chosen.current, runs.commits]
    rw [commits, runs.commits]
    exact coherent.commit runs.chosen.current
      ⟨route.node, _, route.candidate, runs.chosen.declared, listed, mem, rfl⟩
      (known.targets _ _ _ _ runs.chosen.declared listed _ mem) rfl rfl

end Machine

/-- In its course, what a machine remembers agrees with the transitions that it has committed. -/
theorem Behavior.Course.coherent {definition : MachineDefinition} {limit : Nat}
    {suppressed : List String} {actor : Actor} {committed : List Transition} {memory : Memory}
    (known : definition.Declared)
    (course : (Behavior.machine definition limit suppressed).Course actor committed memory) :
    Machine.Coherent definition limit committed memory := by
  induction course with
  | loaded => exact .of_state rfl known.initial rfl
  | started yields => exact Machine.start_coherent known rfl yields
  | handled _ yields ih => exact Machine.send_coherent known ih yields

/-- What a machine remembers is consistent with its definition and with the transitions that it has
committed since it was loaded. -/
structure MachineDefinition.Consistent (definition : MachineDefinition) (limit : Nat)
    (committed : List Transition) (memory : Memory) : Prop where
  /-- It is in a declared state, and all transitions from there lead to declared states. -/
  current : ∃ state node, memory.state = some state ∧ definition.states.find? state = some node ∧
    ∀ event candidates, node.on.find? event = some candidates → ∀ candidate ∈ candidates,
      ∃ next, definition.states.find? candidate.target = some next
  /-- Every transition in the history is declared. -/
  declared : ∀ record ∈ memory.history, definition.Declares record
  /-- Each one begins where the one before it ended, -/
  chained : memory.history.IsChain fun first next => first.target = next.source
  /-- and the last one ended in the current state. -/
  latest : ∀ record ∈ memory.history.getLast?, memory.state = some record.target
  /-- The history holds the latest of the transitions, in their order, -/
  recorded : memory.history <:+ committed
  /-- all of them, or as many as it may. -/
  length : memory.history.length = min limit committed.length

namespace Machine

variable {definition : MachineDefinition} {limit : Nat} {committed : List Transition}
variable {memory before after : Memory} {actor : Actor} {event : Event} {log : List Exchange}

/-- What agrees with all transitions is consistent with the latest ones. -/
lemma Coherent.consistent (coherent : Coherent definition limit committed memory)
    (known : definition.Declared) : definition.Consistent limit committed memory := by
  have recorded : memory.history <:+ committed :=
    coherent.history ▸ lastTransitions_suffix limit committed
  refine ⟨?_, fun record mem => coherent.declared record (recorded.subset mem),
    coherent.chained.suffix recorded, fun record ends => ?_, recorded,
    by rw [coherent.history, length_lastTransitions]⟩
  · obtain ⟨state, current, declared⟩ := coherent.current
    obtain ⟨node, found⟩ := Option.isSome_iff_exists.1 declared
    refine ⟨state, node, current, found, fun event candidates listed candidate mem => ?_⟩
    exact Option.isSome_iff_exists.1 (known.targets _ _ _ _ found listed candidate mem)
  · rw [coherent.history, lastTransitions, List.getLast?_drop] at ends
    split at ends
    · cases ends
    · exact coherent.latest record ends

/-! ## A stop on the way -/

/-- What is done where exit actions or those of a transition stop the pass. -/
structure Route.CutsShort (route : Route) (actor : Actor) : Prop where
  /-- No entry action asks for anything, -/
  skipped : route.arriving = []
  /-- or changes anything: after the stop the name of the new state is staged, and that is all. -/
  staged : route.last = ({ route.middle with
    state := some route.candidate.target }).stageState route.candidate.target
  /-- The context that the pass ends with names the new state, -/
  names : route.last.working.field? "state" = some (.str route.candidate.target)
  /-- and its difference to the context that was read is written in one update. -/
  flushed : ∃ answer told, route.ending = .execute (.update actor.config.context
    (route.last.base.diff route.last.working)) answer :: told
  /-- Where the context may be written, that writes the name of the new state, unless the context
  named this state before and has been made to name another one meanwhile. -/
  named : (∀ value, route.context = some value → Assoc.Sorted value.fieldsOf) →
    ∀ (store : Store) held, store.read actor.config.context = some held →
      actor.config.context ∉ store.locked →
      (held.field? "state" = (Json.asContext route.context).field? "state" ∨
        (Json.asContext route.context).field? "state" ≠ some (.str route.candidate.target)) →
      ∃ value, (store.execute (.update actor.config.context
          (route.last.base.diff route.last.working))).2.read actor.config.context = some value ∧
        value.field? "state" = some (.str route.candidate.target)

/-- **A transition that is stopped on the way commits** without running entry actions. -/
theorem Route.Runs.cutsShort {route : Route}
    (runs : route.Runs definition limit actor before event log after) (stops : route.flow = .stop) :
    route.CutsShort actor := by
  have arrives := runs.arrives {}
  rw [arrive, stops] at arrives
  obtain ⟨skipped, staged, -⟩ := yields_done.1 arrives
  obtain ⟨-, -, answer, told, flushed, -⟩ := Occasion.finish_yields (runs.ends {})
  refine ⟨skipped, staged, staged ▸ Json.field?_merge_state _ _, ⟨answer, told, flushed⟩,
    fun sorted store held found free kept => ?_⟩
  have later : route.start.Later route.middle := (runs.leaves {}).ensures (leave_later _ _ _ _)
  have base : route.last.base = .asContext route.context := by
    rw [staged]
    exact later.base.trans (congrArg Activation.base (ofContext_eq route.context))
  have ordered : Assoc.Sorted route.start.working.fieldsOf := by
    rw [show route.start.working = .asContext route.context from
      congrArg Activation.working (ofContext_eq route.context)]
    cases read : route.context with
    | none => exact Assoc.sorted_nil
    | some value => exact sorted value read
  have names : route.last.working.Names route.candidate.target := by
    rw [staged]
    exact Json.names_merge (later.sorted ordered) _
  have object := Json.eq_obj names.object
  have record : (route.last.base.diff route.last.working).isObject = true :=
    (Json.isObject_diff _ _).trans names.object
  have written := Store.update_of_writable found free record
  refine ⟨held.merge (route.last.base.diff route.last.working), ?_, ?_⟩
  · rw [Store.execute, Store.apply, written]
    exact (Store.read_put _ _ _ _).trans (if_pos rfl)
  · rw [Json.field?_eq_find?] at kept ⊢
    rw [Json.field?_eq_find?] at kept
    rw [object]
    exact Json.find?_merge_diff_of_text names.sorted names.state (base ▸ kept)

end Machine

end Troupe
