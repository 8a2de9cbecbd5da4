import Troupe.Proofs.Behavior.OneState
import Troupe.Proofs.Store.Effects

/-!
# A process and its machine with one state agree

The two kinds of behavior handle events by different code: a machine looks for a transition that
qualifies, stages its state and may run entry and exit actions, tells its guards of the state and
has a rule of its own for when nothing is to be rendered.  Here a life of a behavior is what
shows of it from its start on, for any sequence of events and any answers that its passes get:
the exchanges of each pass, and the context, the last result and the dispatch after it.  A
process and the machine with one state that has its handlers have the same lives.

For one event both come to the same condition, `ProcessDefinition.Settles`, by way of
`Activation.run_tell`: a machine that stages the name that its context has stages nothing.  The
name is kept from event to event (`Settles.names`), which carries the induction on the events.

## Main results

* `Behavior.oneState_agrees`: the process and the machine have the same lives.
-/

namespace Troupe

/-! ## The life of a behavior -/

namespace Exchange

/-- An exchange while an object has a value and nothing writes it: the object is read as it is,
and no operation on it succeeds. -/
def Within (object : Id) (value : Json) : Exchange → Prop
  | .read id answer => id = object → answer = some value
  | .execute op (.ok _) => op.object? ≠ some object
  | _ => True

/-- What an exchange at the end of a pass leaves of an object: an update that succeeds is merged
into its value. -/
def leaves (object : Id) (value : Json) : Exchange → Json
  | .execute (.update id patch) (.ok _) => if id = object then value.merge patch else value
  | _ => value

end Exchange

/-- The handling of an event, as it shows. -/
structure Turn where
  /-- The exchanges of the work, -/
  work : List Exchange
  /-- and those of the end of the pass. -/
  flush : List Exchange
  /-- The context afterwards. -/
  context : Json
  /-- The last result. -/
  lastResult : Json
  /-- What it came to. -/
  dispatch : Dispatch

namespace Behavior

/-- While its context has a value that only the ends of its passes write, a behavior handles an
event. -/
structure Handles (behavior : Behavior) (actor : Actor) (memory : Memory) (context : Json)
    (event : Event) (turn : Turn) (after : Memory) : Prop where
  /-- The work and the end of the pass make these exchanges. -/
  yields : ∃ outcome middle,
    (behavior.work actor memory event).Yields memory turn.work outcome middle ∧
    (behavior.conclude actor event outcome).Yields middle turn.flush turn.dispatch after
  /-- Nothing writes the context before the end of the pass, -/
  within : ∀ exchange ∈ turn.work, exchange.Within actor.config.context context
  /-- which leaves this of it. -/
  context : turn.context = turn.flush.foldl (Exchange.leaves actor.config.context) context
  /-- The last result is what is remembered of it. -/
  lastResult : turn.lastResult = after.lastResult

/-- A behavior handles events, one after the other. -/
inductive Lives (behavior : Behavior) (actor : Actor) :
    Memory → (context : Json) → List Event → List Turn → Prop
  /-- There are no more events. -/
  | nil (memory : Memory) (context : Json) : Lives behavior actor memory context [] []
  /-- An event is handled, and then the others. -/
  | cons {memory after : Memory} {context : Json} {event : Event} {turn : Turn}
    {events : List Event} {turns : List Turn} :
    behavior.Handles actor memory context event turn after →
    Lives behavior actor after turn.context events turns →
    Lives behavior actor memory context (event :: events) (turn :: turns)

/-- A behavior is started over a context, which it does nothing but read, and then handles
events, one after the other. -/
def Life (behavior : Behavior) (actor : Actor) (context : Json) (events : List Event)
    (turns : List Turn) : Prop :=
  ∃ log memory,
    (behavior.start actor behavior.initialMemory).Yields behavior.initialMemory log () memory ∧
    (∀ exchange ∈ log, exchange = .read actor.config.context (some context)) ∧
    behavior.Lives actor memory context events turns

end Behavior

/-! ## The end of a pass -/

namespace Occasion

variable {occasion : Occasion} {activation last : Activation}

/-- The end of a pass depends on the context alone, as it was read and as it is staged. -/
lemma finish_behaving (behavior : Json) (base : last.base = activation.base)
    (working : last.working = activation.working) :
    (occasion.behaving behavior).finish last = occasion.finish activation := by
  unfold finish
  rw [base, working]
  rfl

end Occasion

/-! ## Handling an event -/

namespace Behavior

variable {behavior : Behavior} {actor : Actor} {memory after : Memory} {context : Json}
  {event : Event} {turn : Turn}

/-- An event that a behavior has nothing to do for changes nothing. -/
lemma handles_of_idle (idle : behavior.work actor memory event = .done none) :
    behavior.Handles actor memory context event turn after ↔
      turn = ⟨[], [], context, memory.lastResult, {}⟩ ∧ after = memory := by
  constructor
  · rintro ⟨⟨outcome, middle, works, ends⟩, -, left, last⟩
    rw [idle] at works
    obtain ⟨work, rfl, rfl⟩ := Pass.yields_done.1 works
    obtain ⟨flush, dispatch, rfl⟩ := Pass.yields_done.1 ends
    rw [flush] at left
    obtain ⟨_, _, _, _, _⟩ := turn
    cases work
    cases flush
    cases dispatch
    cases left
    cases last
    exact ⟨rfl, rfl⟩
  · rintro ⟨rfl, rfl⟩
    exact ⟨⟨none, after, idle ▸ .done _ _, .done _ _⟩, by simp, rfl, rfl⟩

/-- A pass that runs actions and then only remembers something. -/
lemma yields_run {α : Type} {run : Pass Activation.Step} {next : Activation.Step → Pass α}
    {last : Activation.Step → α} {remembered : Activation.Step → Memory}
    (ends : ∀ step memory log result after, (next step).Yields memory log result after ↔
      log = [] ∧ result = last step ∧ after = remembered step)
    {log : List Exchange} {result : α} : (run >>= next).Yields memory log result after ↔
      ∃ step passed, run.Yields {} log step passed ∧ result = last step ∧
        after = remembered step := by
  rw [Pass.yields_bind]
  constructor
  · rintro ⟨first, rest, step, passed, rfl, ran, ended⟩
    obtain ⟨rfl, rfl, rfl⟩ := (ends _ _ _ _ _).1 ended
    obtain ⟨passed, ran⟩ := ran.of_memory {}
    exact ⟨step, passed, (List.append_nil _).symm ▸ ran, rfl, rfl⟩
  · rintro ⟨step, passed, ran, rfl, rfl⟩
    obtain ⟨passed, ran⟩ := ran.of_memory memory
    exact ⟨log, [], step, passed, (List.append_nil _).symm, ran, (ends _ _ _ _ _).2 ⟨rfl, rfl, rfl⟩⟩

/-- What a behavior does that runs actions over its context for an event. -/
lemma handles_of_run {next : Option Json → Pass (Option (Activation × Dispatch))}
    (works : behavior.work actor memory event = .read actor.config.context next)
    {run : Pass Activation.Step} {last : Activation.Step → Activation × Dispatch}
    {remembered : Activation.Step → Memory}
    (runs : ∀ log outcome middle, (next (some context)).Yields memory log outcome middle ↔
      ∃ step passed, run.Yields {} log step passed ∧ outcome = some (last step) ∧
        middle = remembered step) :
    behavior.Handles actor memory context event turn after ↔ ∃ rest step passed,
      turn.work = .read actor.config.context (some context) :: rest ∧
      run.Yields {} rest step passed ∧
      (∀ exchange ∈ turn.work, exchange.Within actor.config.context context) ∧
      (Occasion.finish ⟨actor, behavior.named, event⟩ (last step).1).Yields {} turn.flush () {} ∧
      turn.context = turn.flush.foldl (Exchange.leaves actor.config.context) context ∧
      turn.lastResult = (remembered step).lastResult ∧ turn.dispatch = (last step).2 ∧
      after = remembered step := by
  constructor
  · rintro ⟨⟨outcome, middle, worked, ended⟩, within, left, result⟩
    rw [works] at worked
    obtain ⟨answer, rest, read, worked⟩ := Pass.yields_read.1 worked
    have same : answer = some context := within (.read actor.config.context answer)
      (read ▸ List.mem_cons_self) rfl
    subst same
    obtain ⟨step, passed, ran, rfl, rfl⟩ := (runs _ _ _).1 worked
    obtain ⟨flush, told, ⟨⟩, afterFlush, split, flushed, done⟩ := Pass.yields_bind.1 ended
    obtain ⟨rfl, dispatch, rfl⟩ := Pass.yields_done.1 done
    obtain ⟨rfl, finished, -⟩ := Occasion.finish_yields flushed
    rw [List.append_nil] at split
    exact ⟨rest, step, passed, read, ran, within, split ▸ finished {}, left, result, dispatch, rfl⟩
  · rintro ⟨rest, step, passed, read, ran, within, flushed, left, result, dispatch, rfl⟩
    refine ⟨⟨some (last step), remembered step, ?_, ?_⟩, within, left, result⟩
    · rw [works, read]
      exact .read _ ((runs _ _ _).2 ⟨step, passed, ran, rfl, rfl⟩)
    · have finished := (Occasion.finish_yields flushed).2.1 (remembered step)
      exact Pass.yields_bind.2 ⟨turn.flush, [], (), remembered step, (List.append_nil _).symm,
        finished, Pass.yields_done.2 ⟨rfl, dispatch, rfl⟩⟩

end Behavior

/-! ## Two ways to handle an event -/

namespace ProcessDefinition

variable (definition : ProcessDefinition) (suppressed : List String) (actor : Actor)
  (state : String) (context : Json) (lastResult : Json) (event : Event)

/-- What the handling of an event by a process comes to, if its context names a state: nothing if
there is no handler, else its handler's actions run over the context, and then the pass ends. -/
def Settles (turn : Turn) : Prop :=
  match definition.handlers.find? event.name with
  | none => turn = ⟨[], [], context, lastResult, {}⟩
  | some actions => ∃ rest step passed,
    turn.work = .read actor.config.context (some context) :: rest ∧
    ((Activation.ofContext (some context)).run ⟨actor, definition.named, event⟩ actions).Yields {}
      rest step passed ∧
    (∀ exchange ∈ turn.work, exchange.Within actor.config.context context) ∧
    (Occasion.finish ⟨actor, definition.named, event⟩ step.2).Yields {} turn.flush () {} ∧
    turn.context = turn.flush.foldl (Exchange.leaves actor.config.context) context ∧
    turn.lastResult = step.2.result ∧
    turn.dispatch = ⟨true, step.2.actionsRun > 0 && !suppressed.contains state⟩

variable {definition suppressed actor state context event} {memory : Memory} {turn : Turn}

/-- At first the working copy is the context. -/
lemma steady_ofContext (names : context.Names state) :
    (Activation.ofContext (some context)).Steady state none := by
  obtain ⟨fields, rfl⟩ : ∃ fields, context = .obj fields := ⟨_, Json.eq_obj names.object⟩
  exact ⟨names, rfl⟩

lemma isSuppressed_eq (names : context.Names state) :
    Process.isSuppressed suppressed context = suppressed.contains state := by
  have found : context.field? "state" = some (.str state) := by
    rw [Json.eq_obj names.object]
    exact names.state
  rw [Process.isSuppressed, found]

/-- A process handles an event in this way. -/
lemma exists_handles_iff (names : context.Names state)
    (keeps : ∀ event actions, definition.handlers.find? event = some actions →
      definition.named.KeepsState actions) :
    (∃ after, (Behavior.process definition suppressed).Handles actor memory context event turn
      after) ↔ definition.Settles suppressed actor state context memory.lastResult event turn := by
  unfold Settles
  cases found : definition.handlers.find? event.name with
  | none =>
    have idle : (Behavior.process definition suppressed).work actor memory event = .done none := by
      rw [Behavior.work, Process.work, found]
      rfl
    simp [Behavior.handles_of_idle idle]
  | some actions =>
    have works : (Behavior.process definition suppressed).work actor memory event =
        .read actor.config.context fun context =>
          (Activation.ofContext context).run ⟨actor, definition.named, event⟩ actions >>= fun step =>
            .remember { memory with
                lastEvent := event.payload, lastResult := step.2.result, passes := memory.passes + 1 }
              (.done (some (step.2, ⟨true, step.2.actionsRun > 0 &&
                !Process.isSuppressed suppressed step.2.working⟩))) := by
      rw [Behavior.work, Process.work, found]
      rfl
    rw [exists_congr fun after => Behavior.handles_of_run works fun log outcome middle =>
      Behavior.yields_run fun step memory log result after => by
        rw [Pass.yields_remember, Pass.yields_done]]
    -- the name stays, so the rule for rendering looks at the same state before and after
    have quiet {rest : List Exchange} {step : Activation.Step} {passed : Memory}
        (ran : ((Activation.ofContext (some context)).run ⟨actor, definition.named, event⟩
          actions).Yields {} rest step passed) :
        Process.isSuppressed suppressed step.2.working = suppressed.contains state :=
      isSuppressed_eq (ran.ensures
        (Activation.run_steady (keeps _ _ found) (steady_ofContext names))).names
    constructor
    · rintro ⟨after, rest, step, passed, work, ran, within, flushed, left, result, dispatch, -⟩
      rw [quiet ran] at dispatch
      exact ⟨rest, step, passed, work, ran, within, flushed, left, result, dispatch⟩
    · rintro ⟨rest, step, passed, work, ran, within, flushed, left, result, dispatch⟩
      rw [← quiet ran] at dispatch
      exact ⟨_, rest, step, passed, work, ran, within, flushed, left, result, dispatch, rfl⟩

/-! The machine with one state stages the name that its context has already, and enters its
state without entry actions. -/

/-- The state at the end of a transition from the one state back to it: what the actions came
to, with the guards told of the state. -/
def arrived (state : String) (actions : List Action) (step : Activation.Step) : Activation :=
  if step.1 = .proceed ∧ actions ≠ [] then { step.2.tell state with invoked := none }
  else step.2.tell state

section Arrived

variable (state : String) (actions : List Action) (step : Activation.Step)

@[simp] lemma arrived_base : (arrived state actions step).base = step.2.base := by
  unfold arrived
  split <;> rfl

@[simp] lemma arrived_working : (arrived state actions step).working = step.2.working := by
  unfold arrived
  split <;> rfl

@[simp] lemma arrived_result : (arrived state actions step).result = step.2.result := by
  unfold arrived
  split <;> rfl

@[simp] lemma arrived_actionsRun : (arrived state actions step).actionsRun = step.2.actionsRun := by
  unfold arrived
  split <;> rfl

end Arrived

lemma enter_back (occasion : Occasion) (activation : Activation) :
    Machine.enter (definition.oneState state) occasion state activation =
      .done { activation with invoked := none } := by
  rw [Machine.enter, find?_oneState]
  rfl

lemma arrive_back {activation : Activation} (steady : activation.Steady state none)
    (occasion : Occasion) (actions : List Action) (flow : Flow) :
    Machine.arrive (definition.oneState state) occasion state (.back state actions) flow
      (activation.tell state) = .done (arrived state actions (flow, activation)) := by
  -- the working copy names the state already
  have staged : (activation.tell state).stageState state = activation.tell state := by
    have merged : (activation.tell state).working.merge (.obj [("state", .str state)]) =
        (activation.tell state).working := steady.names.merge_eq
    rw [Activation.stageState, Activation.stage, merged]
  have told : Machine.arrive (definition.oneState state) occasion state (.back state actions) flow
      (activation.tell state) =
      if flow = .proceed ∧ (state ≠ state ∨ actions ≠ []) then
        Machine.enter (definition.oneState state) occasion state
          ((activation.tell state).stageState state)
      else .done ((activation.tell state).stageState state) := rfl
  rw [told, staged, enter_back, arrived]
  simp only [ne_eq, not_true_eq_false, false_or]
  split <;> rfl

/-- A transition from the one state back to it runs the handler's actions, as the process does. -/
lemma take_back {actions : List Action} {activation : Activation} (limit : Nat) (behavior : Json)
    (keeps : definition.named.KeepsState actions) (steady : activation.Steady state none) :
    Machine.take (definition.oneState state) limit suppressed (actor.behaving behavior) event memory
        state (.loop state definition.handlers) (.back state actions) (activation.tell state) =
      .remember { memory with state := some state }
        (activation.run ⟨actor, definition.named, event⟩ actions >>= fun step =>
          let history := Machine.lastTransitions limit
            (memory.history ++ [⟨state, state, event.name⟩])
          let remembered := { memory with state := some state, history }
          .remember remembered
            (.remember { remembered with
                lastEvent := event.payload, lastResult := step.2.result, passes := memory.passes + 1 }
              (.done (arrived state actions step,
                ⟨true, step.2.actionsRun > 0 && !suppressed.contains state⟩)))) := by
  let occasion : Occasion := ⟨actor, definition.named, event⟩
  have leave : Machine.leave
      (Machine.occasion (definition.oneState state) (actor.behaving behavior) event)
      (.loop state definition.handlers) (.back state actions) (activation.tell state) =
      Activation.Step.tell state <$> activation.run occasion actions := by
    change (activation.tell state).run (occasion.behaving behavior) actions = _
    exact Activation.run_tell keeps steady behavior
  change Pass.remember _ (Machine.leave _ _ _ _ >>= _) = _
  rw [leave, map_eq_pure_bind, bind_assoc]
  refine congrArg (Pass.remember _) (Pass.bind_congr (Activation.run_steady keeps steady) ?_)
  rintro ⟨flow, last⟩ steady
  change Pass.remember _ (Machine.arrive _ _ _ _ _ (last.tell state) >>= _) = _
  rw [arrive_back steady]
  change Pass.remember _ (Pass.remember _ (Pass.done _)) = _
  simp [Candidate.back]

/-- What a machine remembers after a transition from its one state back to it. -/
def stayed (limit : Nat) (state : String) (memory : Memory) (event : Event)
    (step : Activation.Step) : Memory where
  state := some state
  history := Machine.lastTransitions limit (memory.history ++ [⟨state, state, event.name⟩])
  lastEvent := event.payload
  lastResult := step.2.result
  passes := memory.passes + 1

/-- The pass of such a transition, as it shows. -/
lemma take_back_yields {actions : List Action} {activation : Activation} (limit : Nat)
    (behavior : Json) (keeps : definition.named.KeepsState actions)
    (steady : activation.Steady state none) (log : List Exchange)
    (outcome : Option (Activation × Dispatch)) (middle : Memory) :
    (Machine.take (definition.oneState state) limit suppressed (actor.behaving behavior) event
        memory state (.loop state definition.handlers) (.back state actions)
        (activation.tell state) >>= fun outcome => Pass.done (some outcome)).Yields memory log
          outcome middle ↔
      ∃ step passed,
        (activation.run ⟨actor, definition.named, event⟩ actions).Yields {} log step passed ∧
        outcome = some (arrived state actions step,
          ⟨true, step.2.actionsRun > 0 && !suppressed.contains state⟩) ∧
        middle = stayed limit state memory event step := by
  rw [take_back limit behavior keeps steady]
  change (Pass.remember _ ((_ >>= _) >>= _)).Yields _ _ _ _ ↔ _
  rw [Pass.yields_remember, bind_assoc]
  refine Behavior.yields_run fun step memory log result after => ?_
  change (Pass.remember _ (Pass.remember _ (Pass.done _))).Yields _ _ _ _ ↔ _
  rw [Pass.yields_remember, Pass.yields_remember, Pass.yields_done]
  rfl

/-- The transition that an event leads to is the one back, if there is a handler. -/
lemma candidates?_oneState (current : memory.state = some state) :
    Machine.candidates? (definition.oneState state) memory event =
      (definition.handlers.find? event.name).map fun actions =>
        (state, .loop state definition.handlers, [.back state actions]) := by
  rw [Machine.candidates?, current, Option.bind_eq_bind, Option.bind_some, find?_oneState,
    Option.bind_eq_bind, Option.bind_some, StateNode.find?_loop]
  cases definition.handlers.find? event.name <;> rfl

/-- So does the machine with one state, and it stays in its state. -/
lemma exists_oneState_handles_iff (limit : Nat) (behavior : Json) (names : context.Names state)
    (keeps : ∀ event actions, definition.handlers.find? event = some actions →
      definition.named.KeepsState actions) (current : memory.state = some state) :
    ((∃ after, (Behavior.machine (definition.oneState state) limit suppressed).Handles
        (actor.behaving behavior) memory context event turn after) ↔
      definition.Settles suppressed actor state context memory.lastResult event turn) ∧
    ∀ after, (Behavior.machine (definition.oneState state) limit suppressed).Handles
      (actor.behaving behavior) memory context event turn after → after.state = some state := by
  unfold Settles
  cases found : definition.handlers.find? event.name with
  | none =>
    have idle : (Behavior.machine (definition.oneState state) limit suppressed).work
        (actor.behaving behavior) memory event = .done none := by
      rw [Behavior.work, Machine.work, candidates?_oneState current, found]
      rfl
    refine ⟨by simp [Behavior.handles_of_idle idle], fun after handles => ?_⟩
    rw [((Behavior.handles_of_idle idle).1 handles).2]
    exact current
  | some actions =>
    have works : (Behavior.machine (definition.oneState state) limit suppressed).work
        (actor.behaving behavior) memory event =
        .read actor.config.context fun context =>
          Machine.take (definition.oneState state) limit suppressed (actor.behaving behavior) event
            memory state (.loop state definition.handlers) (.back state actions)
            ((Activation.ofContext context).tell state) >>= fun outcome => .done (some outcome) := by
      rw [Behavior.work, Machine.work, candidates?_oneState current, found]
      rfl
    have steady := steady_ofContext names
    -- the end of the pass does not depend on what the guards were told
    have finish (step : Activation.Step) :
        (Occasion.behaving ⟨actor, definition.named, event⟩ behavior).finish
          (arrived state actions step) =
        Occasion.finish ⟨actor, definition.named, event⟩ step.2 :=
      Occasion.finish_behaving behavior (arrived_base ..) (arrived_working ..)
    constructor
    · rw [exists_congr fun after => Behavior.handles_of_run works
        (take_back_yields limit behavior (keeps _ _ found) steady)]
      constructor
      · rintro ⟨after, rest, step, passed, work, ran, within, flushed, left, result, dispatch, -⟩
        change ((Occasion.behaving ⟨actor, definition.named, event⟩ behavior).finish
          (arrived state actions step)).Yields _ _ _ _ at flushed
        rw [finish step] at flushed
        exact ⟨rest, step, passed, work, ran, within, flushed, left, result, dispatch⟩
      · rintro ⟨rest, step, passed, work, ran, within, flushed, left, result, dispatch⟩
        rw [← finish step] at flushed
        exact ⟨_, rest, step, passed, work, ran, within, flushed, left, result, dispatch, rfl⟩
    · intro after handles
      obtain ⟨_, _, _, _, _, _, _, _, _, _, rfl⟩ := (Behavior.handles_of_run works
        (take_back_yields limit behavior (keeps _ _ found) steady)).1 handles
      rfl

/-- The end of the pass leaves the name of the state in the context. -/
lemma Settles.names {lastResult : Json}
    (settles : definition.Settles suppressed actor state context lastResult event turn)
    (names : context.Names state)
    (keeps : ∀ event actions, definition.handlers.find? event = some actions →
      definition.named.KeepsState actions) : turn.context.Names state := by
  unfold Settles at settles
  split at settles
  · rw [settles]
    exact names
  · rename_i actions found
    obtain ⟨rest, step, passed, -, ran, -, flushed, left, -⟩ := settles
    have steady := ran.ensures (Activation.run_steady (keeps _ _ found) (steady_ofContext names))
    have base : step.2.base = context := by
      refine (ran.ensures (Activation.run_later _ _ actions)).base.trans ?_
      obtain ⟨fields, rfl⟩ : ∃ fields, context = .obj fields := ⟨_, Json.eq_obj names.object⟩
      rfl
    obtain ⟨-, -, answer, told, flush, delivers⟩ := Occasion.finish_yields flushed
    -- what is told afterwards leaves the context as it is
    have quiet (value : Json) :
        told.foldl (Exchange.leaves actor.config.context) value = value := by
      refine List.foldlRecOn (motive := fun current => current = value) told _ rfl
        fun current same exchange mem => ?_
      obtain ⟨target, message, sent, rfl⟩ := delivers exchange mem
      exact same
    rw [left, flush, List.foldl_cons, quiet]
    cases answer with
    | error cause => exact names
    | ok value =>
      change Json.Names (if _ then _ else _) state
      rw [if_pos rfl, base]
      exact steady.names.merge_diff names.sorted rfl

/-- One event after the other, the process and the machine with one state do the same. -/
lemma lives_iff (limit : Nat) (behavior : Json)
    (keeps : ∀ event actions, definition.handlers.find? event = some actions →
      definition.named.KeepsState actions) (events : List Event) {turns : List Turn}
    {left right : Memory} (names : context.Names state) (current : right.state = some state)
    (result : right.lastResult = left.lastResult) :
    (Behavior.process definition suppressed).Lives actor left context events turns ↔
      (Behavior.machine (definition.oneState state) limit suppressed).Lives
        (actor.behaving behavior) right context events turns := by
  -- both settle the first event alike, and after it the context names the state again
  induction events generalizing context turns left right with
  | nil =>
    constructor
    · rintro ⟨⟩
      exact .nil _ _
    · rintro ⟨⟩
      exact .nil _ _
  | cons event events ih =>
    constructor
    · rintro ⟨⟩
      rename_i after turn turns handles rest
      have settles := (exists_handles_iff names keeps).1 ⟨after, handles⟩
      obtain ⟨same, stays⟩ := exists_oneState_handles_iff limit behavior names keeps current
      rw [← result] at settles
      obtain ⟨other, handles'⟩ := same.2 settles
      exact .cons handles' ((ih (settles.names names keeps) (stays _ handles')
        (handles'.lastResult.symm.trans handles.lastResult)).1 rest)
    · rintro ⟨⟩
      rename_i after turn turns handles rest
      obtain ⟨same, stays⟩ := exists_oneState_handles_iff limit behavior names keeps current
      have settles := same.1 ⟨after, handles⟩
      rw [result] at settles
      obtain ⟨other, handles'⟩ := (exists_handles_iff names keeps).2 settles
      exact .cons handles' ((ih (settles.names names keeps) (stays _ handles)
        (handles.lastResult.symm.trans handles'.lastResult)).2 rest)

end ProcessDefinition

namespace Behavior

open ProcessDefinition

/-- A machine whose context names its one state starts in it. -/
lemma oneState_life_iff {definition : ProcessDefinition} {suppressed : List String} {state : String}
    (limit : Nat) {actor : Actor} {context : Json} (names : context.Names state)
    {events : List Event} {turns : List Turn} :
    (Behavior.machine (definition.oneState state) limit suppressed).Life actor context events
        turns ↔
      (Behavior.machine (definition.oneState state) limit suppressed).Lives actor
        { state := some state } context events turns := by
  have known : (definition.oneState state).states.contains state = true :=
    Table.contains_iff.2 ⟨_, definition.find?_oneState state⟩
  obtain ⟨next, starts, resumes⟩ :=
    Machine.start_resumes (definition.oneState state) actor { state := some state }
  have resumed := resumes (some context) state
    (Machine.persistedState?_eq_some.2 ⟨context, rfl, names.field?, known⟩)
  constructor
  · rintro ⟨log, memory, started, reads, lives⟩
    change Pass.Yields (Machine.start _ _ { state := some state }) _ _ _ _ at started
    rw [starts] at started
    obtain ⟨answer, rest, rfl, done⟩ := Pass.yields_read.1 started
    cases reads _ List.mem_cons_self
    rw [resumed] at done
    obtain ⟨-, -, rfl⟩ := Pass.yields_done.1 (Pass.yields_remember.1 done)
    exact lives
  · intro lives
    refine ⟨[.read actor.config.context (some context)], _, ?_, by simp, lives⟩
    change Pass.Yields (Machine.start _ _ { state := some state }) _ _ _ _
    rw [starts]
    refine .read (some context) ?_
    rw [resumed]
    exact .remember (.done _ _)

/-- A process does nothing when it starts. -/
lemma process_life_iff {definition : ProcessDefinition} {suppressed : List String} {actor : Actor}
    {context : Json} {events : List Event} {turns : List Turn} :
    (Behavior.process definition suppressed).Life actor context events turns ↔
      (Behavior.process definition suppressed).Lives actor {} context events turns := by
  constructor
  · rintro ⟨log, memory, started, -, lives⟩
    obtain ⟨-, -, rfl⟩ := Pass.yields_done.1 started
    exact lives
  · exact fun lives => ⟨[], _, .done _ _, by simp, lives⟩

/-- **A process and the machine with one state that has its handlers agree.**  If a process is
loaded in which no action that a handler leads to changes the field `state` of the context, then
so is the machine with one state, whatever the state is called.  Started over a context that
names the state, they handle every sequence of events with the same exchanges, to the same
contexts, last results and dispatches. -/
theorem oneState_agrees {handlers : List (String × Json)} {actions : Json} {config : Config}
    {definition : ProcessDefinition} {suppressed : List String}
    (loaded : load (processOf handlers actions) config = .ok (.process definition suppressed))
    (keeps : ∀ event list, definition.handlers.find? event = some list →
      definition.named.KeepsState list) (state : String) :
    ∃ machine, load (oneStateOf state handlers actions) config = .ok machine ∧
      ∀ (actor : Actor) (context : Json), context.Names state → ∀ events turns,
        (Behavior.process definition suppressed).Life (actor.behaving (processOf handlers actions))
            context events turns ↔
          machine.Life (actor.behaving (oneStateOf state handlers actions)) context events
            turns := by
  rw [load_of_process (field?_processOf_kind _ _)] at loaded
  obtain ⟨read, same, done⟩ := bind_eq_ok.1 loaded
  cases done
  refine ⟨.machine (definition.oneState state) config.historyLimit.toNat config.suppressedStates,
    ?_, fun actor context names events turns => ?_⟩
  · rw [load_of_machine (field?_oneStateOf_kind _ _ _), oneState_ofJson same]
    rfl
  · rw [process_life_iff, oneState_life_iff _ names]
    exact lives_iff _ _ keeps events names rfl rfl

end Behavior

namespace Sample

/-- The handlers of an actor that notes in its context that it was greeted. -/
def greetings : List (String × Json) :=
  [("GREET", .obj [("ctx", .obj [("greeted", .bool true)])])]

/-- The process with these handlers. -/
def greeter : ProcessDefinition :=
  ⟨.ofList [("GREET", [.ctx (.obj [("greeted", .bool true)])])], ⟨∅⟩⟩

/-- An actor. -/
def host : Actor := ⟨.ofNat 3, ⟨["GREET"], .ofNat 1, .ofNat 2, .null, none, ∅, ∅⟩⟩

/-- The context of an open door. -/
def door : Json := .obj [("state", .str "open")]

/-- How a greeting is handled at an open door. -/
def greeted : Turn where
  work := [.read (.ofNat 2) (some door)]
  flush := [.execute (.update (.ofNat 2) (.obj [("greeted", .bool true)])) (.ok .null)]
  context := .obj [("greeted", .bool true), ("state", .str "open")]
  lastResult := .null
  dispatch := ⟨true, true⟩

lemma load_greeter : Behavior.load (processOf greetings .null) {} =
    .ok (.process greeter ["dragging"]) := by
  rw [Behavior.load_of_process (field?_processOf_kind _ _)]
  have read : ProcessDefinition.ofJson (processOf greetings .null) = .ok greeter :=
    (ProcessDefinition.ofJson_eq_ok (field?_processOf_handlers _ _)).2
      ⟨by rw [field?_processOf_actions]; rfl, _, rfl, rfl⟩
  rw [read]
  rfl

lemma names_door : door.Names "open" := ⟨rfl, List.pairwise_singleton _ _, rfl⟩

lemma life_greeter (behavior : Json) : (Behavior.process greeter ["dragging"]).Life
    (host.behaving behavior) door [⟨"GREET", .empty, none, none⟩] [greeted] := by
  refine ⟨[], {}, .done _ _, by simp, .cons ?_ (.nil { lastEvent := .empty, passes := 1 } _)⟩
  refine ⟨⟨_, _, .read _ (.remember (.done _ _)), .execute _ (.done _ _)⟩, ?_, ?_, ?_⟩
  · intro exchange mem
    cases List.mem_singleton.1 mem
    exact fun _ => rfl
  · have order : "greeted" < "state" := by decide +kernel
    have merged : door.merge (.obj [("greeted", .bool true)]) =
        .obj (Assoc.insert "greeted" (.bool true) [("state", .str "open")]) := rfl
    have context : greeted.flush.foldl (Exchange.leaves (.ofNat 2)) door =
        door.merge (.obj [("greeted", .bool true)]) := rfl
    refine Eq.trans ?_ context.symm
    rw [merged]
    simp [Assoc.insert, order, greeted]
  · rfl

end Sample

/-- A machine with one state that is greeted at an open door does what the process does. -/
theorem Behavior.oneState_is_greeted :
    ∃ machine, Behavior.load (oneStateOf "open" Sample.greetings .null) {} = .ok machine ∧
      machine.Life (Sample.host.behaving (oneStateOf "open" Sample.greetings .null)) Sample.door
        [⟨"GREET", .empty, none, none⟩] [Sample.greeted] := by
  have keeps (event : String) (list : List Action)
      (found : Sample.greeter.handlers.find? event = some list) :
      Sample.greeter.named.KeepsState list := by
    refine NamedActions.keepsState_of_lists ?_ (fun _ _ none => nomatch none)
    have mem := Assoc.mem_of_find?_eq_some found
    cases List.mem_singleton.1 mem
    decide
  obtain ⟨machine, loaded, agrees⟩ := Behavior.oneState_agrees Sample.load_greeter keeps "open"
  exact ⟨machine, loaded, (agrees Sample.host Sample.door Sample.names_door _ _).1
    (Sample.life_greeter _)⟩

end Troupe
