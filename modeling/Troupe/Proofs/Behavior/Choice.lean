import Troupe.Proofs.Behavior.CurrentState

/-!
# The choice of a transition

A machine looks at its candidates for an event in the order in which they are declared, and takes
the first one whose guard is absent or holds.  The guards are checked on the context as the pass
reads it, before any action.

What it is for a guard to hold is said here once more, of a context instead of the state of a pass:
a guard that cannot be evaluated does not hold.

## Main results

* `Machine.qualifies_iff`: a candidate qualifies if its guard is absent or holds over the context;
* `Behavior.send_of_chosen`: the first candidate that qualifies is taken;
* `Behavior.send_of_ignores`: where there is none, a pass has nothing to do.
-/

namespace Troupe

/-- A guard holds over a context, for a machine in a state.  A schema sees the context with the name
of the state in it; an expression has to come to a value that counts as true. -/
def Guard.HoldsOver (context : Json) (state : String) (event : Event) : Guard → Prop
  | .literal holds => holds = true
  | .schema content => Schema.accepts content (context.setField "state" (.str state)) = true
  | .expr template => ∃ value,
    Template.resolve (Template.scope context event.payload .null) template = .ok value ∧
      value.truthy = true

/-- The guard of a candidate is absent or holds. -/
def Candidate.Qualifies (candidate : Candidate) (context : Json) (state : String)
    (event : Event) : Prop :=
  ∀ guard, candidate.guard = some guard → guard.HoldsOver context state event

/-- The context that a pass reads: what is no object counts as an empty one. -/
def Json.asContext (stored : Option Json) : Json := .obj (stored.elim [] Json.fieldsOf)

namespace Machine

variable {definition : MachineDefinition} {memory : Memory} {stored : Option Json} {event : Event}
variable {state : String} {node : StateNode} {candidate : Candidate} {actor : Actor}

/-- A candidate is the first one for an event, in the order of the definition, that qualifies. -/
structure Chosen (definition : MachineDefinition) (memory : Memory) (context : Json) (event : Event)
    (state : String) (node : StateNode) (candidate : Candidate) : Prop where
  /-- The machine is in a state -/
  current : memory.state = some state
  /-- that is declared, -/
  declared : definition.states.find? state = some node
  /-- the candidate stands among those for the event, after some that do not qualify, -/
  first : ∃ before rest, node.on.find? event.name = some (before ++ candidate :: rest) ∧
    ∀ other ∈ before, ¬ other.Qualifies context state event
  /-- and it does. -/
  qualifies : candidate.Qualifies context state event

/-- A pass begins with the context that it reads. -/
lemma ofContext_eq (stored : Option Json) : Activation.ofContext stored =
    ⟨.asContext stored, .asContext stored, none, 0, .null, none, 0⟩ := by
  unfold Activation.ofContext
  split
  · rfl
  · rename_i other
    cases stored with
    | none => rfl
    | some value =>
      cases value with
      | obj fields => exact absurd rfl (other fields)
      | _ => rfl

/-- A guard is found to hold if it does. -/
lemma holds_iff (guard : Guard) :
    { Activation.ofContext stored with state := some state }.holds event guard = .ok true ↔
      guard.HoldsOver (.asContext stored) state event := by
  rw [ofContext_eq]
  cases guard with
  | literal holds => exact pure_eq_ok
  | schema content => exact pure_eq_ok
  | expr template =>
    unfold Activation.holds Guard.HoldsOver Activation.resolve Activation.scope
    dsimp only
    cases Template.resolve (Template.scope (.asContext stored) event.payload .null) template with
    | error error => simp [Except.mapError]
    | ok value => simp [Except.mapError]

/-- A candidate is found to qualify if it does. -/
theorem qualifies_iff : qualifies { Activation.ofContext stored with state := some state } event
    candidate = true ↔ candidate.Qualifies (.asContext stored) state event := by
  unfold qualifies Candidate.Qualifies
  cases candidate.guard with
  | none => exact ⟨nofun, fun _ => rfl⟩
  | some guard =>
    simp only [Option.some.injEq, forall_eq', ← holds_iff]
    split
    · rename_i holds decided
      rw [decided, Except.ok.injEq]
    · rename_i error decided
      rw [decided]
      simp

/-- The state that a machine is in has these candidates for an event. -/
lemma candidates?_of_find? {candidates : List Candidate} (current : memory.state = some state)
    (declared : definition.states.find? state = some node)
    (listed : node.on.find? event.name = some candidates) :
    candidates? definition memory event = some (state, node, candidates) := by
  rw [candidates?, current, Option.bind_eq_bind, Option.bind_some, declared, Option.bind_eq_bind,
    Option.bind_some, listed]
  rfl

/-- A machine in a state with candidates for an event takes the first one that qualifies, if one
does. -/
lemma work_of_candidates {limit : Nat} {suppressed : List String} {candidates : List Candidate}
    (entered : candidates? definition memory event = some (state, node, candidates)) :
    work definition limit suppressed actor memory event = .read actor.config.context fun stored =>
      let activation := { Activation.ofContext stored with state := some state }
      match candidates.find? (qualifies activation event) with
      | none => .done none
      | some candidate =>
        some <$> take definition limit suppressed actor event memory state node candidate
          activation := by
  rw [work, entered]
  refine congrArg (Pass.read _) (funext fun stored => ?_)
  dsimp only [Pass.bind]
  cases candidates.find? _ <;> rfl

/-- The first candidate that is found to qualify is the first one that does. -/
lemma find?_of_chosen (chosen : Chosen definition memory (.asContext stored) event state node
    candidate) : ∃ candidates, candidates? definition memory event = some (state, node, candidates) ∧
      candidates.find? (qualifies { Activation.ofContext stored with state := some state } event) =
        some candidate := by
  obtain ⟨before, rest, listed, passed⟩ := chosen.first
  refine ⟨_, candidates?_of_find? chosen.current chosen.declared listed, ?_⟩
  refine List.find?_eq_some_iff_append.2 ⟨qualifies_iff.2 chosen.qualifies, before, rest, rfl, ?_⟩
  intro other mem
  rw [Bool.not_eq_true', Bool.eq_false_iff]
  exact fun does => passed other mem (qualifies_iff.1 does)

/-- And so the other way round. -/
lemma chosen_of_find? {candidates : List Candidate}
    (entered : candidates? definition memory event = some (state, node, candidates))
    (found : candidates.find?
      (qualifies { Activation.ofContext stored with state := some state } event) = some candidate) :
    Chosen definition memory (.asContext stored) event state node candidate := by
  obtain ⟨current, declared, listed⟩ := candidates?_eq_some entered
  obtain ⟨does, before, rest, rfl, passed⟩ := List.find?_eq_some_iff_append.1 found
  refine ⟨current, declared, ⟨before, rest, listed, fun other mem does => ?_⟩, qualifies_iff.1 does⟩
  have fails := passed other mem
  rw [qualifies_iff.2 does] at fails
  cases fails

end Machine

namespace Behavior

open Machine

variable {behavior : Behavior} {memory : Memory} {stored : Option Json} {event : Event}

/-- A behavior has nothing for an event.  A process has no handler.  A machine is in no declared
state, or has no candidates for the event in its state, or none of them qualifies. -/
def Ignores (behavior : Behavior) (memory : Memory) (context : Json) (event : Event) : Prop :=
  match behavior with
  | .machine definition _ _ => ∀ state node candidates, memory.state = some state →
    definition.states.find? state = some node → node.on.find? event.name = some candidates →
    ∀ candidate ∈ candidates, ¬ candidate.Qualifies context state event
  | .process definition _ => definition.handlers.find? event.name = none

/-- If a machine has something for an event, there is a first candidate that qualifies. -/
lemma exists_chosen {definition : MachineDefinition} {limit : Nat} {suppressed : List String}
    {context : Json}
    (has : ¬ (machine definition limit suppressed).Ignores memory context event) :
    ∃ state node candidate, Chosen definition memory context event state node candidate := by
  classical
  simp only [Ignores, not_forall, not_not] at has
  obtain ⟨state, node, candidates, current, declared, listed, candidate, mem, does⟩ := has
  have some : (candidates.find? fun candidate => candidate.Qualifies context state event).isSome :=
    List.find?_isSome.2 ⟨candidate, mem, decide_eq_true does⟩
  obtain ⟨first, found⟩ := Option.isSome_iff_exists.1 some
  obtain ⟨qualifies, before, rest, rfl, passed⟩ := List.find?_eq_some_iff_append.1 found
  refine ⟨state, node, first, current, declared, ⟨before, rest, listed, fun other mem => ?_⟩,
    of_decide_eq_true qualifies⟩
  simpa using passed other mem

/-- What a behavior ignores leaves a pass with nothing to do, or with nothing but a look at the
context. -/
lemma send_of_ignores (actor : Actor)
    (ignores : behavior.Ignores memory (.asContext stored) event) :
    behavior.send actor memory event = .done {} ∨
    ∃ next, behavior.send actor memory event = .read actor.config.context next ∧
      next stored = .done {} := by
  cases behavior with
  | machine definition limit suppressed =>
    cases entered : candidates? definition memory event with
    | none =>
      refine .inl ?_
      rw [send, work, Machine.work, entered]
      rfl
    | some found =>
      obtain ⟨current, declared, listed⟩ := candidates?_eq_some entered
      obtain ⟨state, node, candidates⟩ := found
      have none : candidates.find?
          (qualifies { Activation.ofContext stored with state := some state } event) = none := by
        refine List.find?_eq_none.2 fun candidate mem does => ?_
        exact ignores state node candidates current declared listed candidate mem
          (qualifies_iff.1 does)
      refine .inr ⟨_, by rw [send, work, work_of_candidates entered]; rfl, ?_⟩
      dsimp only
      rw [none]
      rfl
  | process definition suppressed =>
    have none : definition.handlers.find? event.name = none := ignores
    refine .inl ?_
    rw [send, work, Process.work, none]
    rfl

/-- The chosen candidate is taken from the context as it is read, and then the pass ends. -/
lemma send_of_chosen {definition : MachineDefinition} {state : String} {node : StateNode}
    {candidate : Candidate} (actor : Actor) (limit : Nat) (suppressed : List String)
    (chosen : Chosen definition memory (.asContext stored) event state node candidate) :
    ∃ next, (machine definition limit suppressed).send actor memory event =
        .read actor.config.context next ∧
      next stored = take definition limit suppressed actor event memory state node candidate
        { Activation.ofContext stored with state := some state } >>= fun outcome =>
          (machine definition limit suppressed).conclude actor event (some outcome) := by
  obtain ⟨candidates, entered, found⟩ := find?_of_chosen chosen
  refine ⟨_, by rw [send, work, work_of_candidates entered]; rfl, ?_⟩
  dsimp only
  rw [found]
  exact bind_map_left (m := Pass) some _ _

end Behavior

end Troupe
