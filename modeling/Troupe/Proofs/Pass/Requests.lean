import Mathlib.Tactic.Lemma
import Troupe.Behavior.Basic

/-!
# The requests of a pass

A pass is a tree: what it asks for next depends on the answers so far.  `Pass.Only` says that
whatever the answers are, every request satisfies a condition, and `only_bind` makes this a
property that is proved part by part.  `Activation.Builds` is what it takes for a property of
single actions to hold of lists of them, named ones included.

Actions make few kinds of requests, and behaviors do little around them: `Behavior.Permits` says
what a condition must allow that every request of a behavior is to satisfy.

## Main results

* `Activation.run_only`: what lists of actions ask for;
* `Behavior.send_only`, `Behavior.start_only`: what behaviors ask for;
* `Behavior.send_asksAs`, `Behavior.start_asksAs`: they ask in the name of their own actor only.
-/

namespace Troupe

/-- A request of a pass, without what follows it. -/
inductive Request where
  /-- Read an object. -/
  | read (id : Id)
  /-- Carry out a store operation. -/
  | execute (op : StoreOp)
  /-- Call a tool. -/
  | callTool (name : String) (view : ActorView) (payload : Json)
  /-- Put a message into an inbox. -/
  | deliver (target : Id) (message : Message)
  /-- Ask for the event types that an actor accepts. -/
  | interfaceOf (target : Id)
  /-- Note an ask. -/
  | registerAsk (asker target : Id) (event : String)
  /-- Run another actor's tool. -/
  | invoke (target : Id) (payload : Json)
  /-- Change what the behavior remembers. -/
  | remember (memory : Memory)

namespace Pass

variable {α β : Type} {P : Request → Prop}

/-- Every request that a pass can come to satisfies a condition. -/
def Only (P : Request → Prop) : Pass α → Prop
  | .done _ => True
  | .read id next => P (.read id) ∧ ∀ answer, (next answer).Only P
  | .execute op next => P (.execute op) ∧ ∀ answer, (next answer).Only P
  | .callTool name view payload next =>
    P (.callTool name view payload) ∧ ∀ answer, (next answer).Only P
  | .deliver target message next => P (.deliver target message) ∧ ∀ answer, (next answer).Only P
  | .interfaceOf target next => P (.interfaceOf target) ∧ ∀ answer, (next answer).Only P
  | .registerAsk asker target event next =>
    P (.registerAsk asker target event) ∧ ∀ answer, (next answer).Only P
  | .invoke target payload next => P (.invoke target payload) ∧ ∀ answer, (next answer).Only P
  | .remember memory next => P (.remember memory) ∧ next.Only P

/-- A pass that goes on with another is as good as both. -/
theorem only_bind {p : Pass α} {f : α → Pass β} (first : p.Only P)
    (after : ∀ result, (f result).Only P) : (p >>= f).Only P := by
  change (p.bind f).Only P
  induction p with
  | done result => exact after result
  | remember memory next ih => exact ⟨first.1, ih first.2⟩
  | _ => rename_i ih; exact ⟨first.1, fun answer => ih answer (first.2 answer)⟩

/-- A pass that makes only some requests makes only more of them. -/
theorem Only.mono {P' : Request → Prop} {p : Pass α} (only : p.Only P)
    (implies : ∀ request, P request → P' request) : p.Only P' := by
  induction p with
  | done => trivial
  | remember memory next ih => exact ⟨implies _ only.1, ih only.2⟩
  | _ => rename_i ih; exact ⟨implies _ only.1, fun answer => ih answer (only.2 answer)⟩

/-- The asks of a pass are in the name of one actor. -/
def AsksAs (actor : Id) : Pass α → Prop :=
  Only fun
    | .registerAsk asker _ _ => asker = actor
    | _ => True

end Pass

/-! ## The parts of a pass -/

/-- A request that an action makes of others: the store is left alone, nothing is remembered, and
an ask is in the name of the acting actor. -/
def Request.Speaks (actor : Id) : Request → Prop
  | .read _ | .execute _ | .remember _ => False
  | .registerAsk asker _ _ => asker = actor
  | _ => True

/-- A request that delivers no report of a failure. -/
def Request.Plain : Request → Prop
  | .deliver _ message => message.automatic = false
  | _ => True

/-- A request that an action makes of others before it fails: it speaks, and reports no failure. -/
def Request.Says (actor : Id) (request : Request) : Prop := request.Speaks actor ∧ request.Plain

/-- A request that an action makes: it speaks, or it is a store operation. -/
def Request.Acts (actor : Id) (request : Request) : Prop :=
  request.Speaks actor ∨ ∃ op, request = .execute op

/-- A request that writes to the store or tells some actors something. -/
def Request.WritesOrTells (told : Id → Prop) : Request → Prop
  | .execute _ => True
  | .deliver target _ => told target
  | _ => False

namespace Pass

variable {α : Type} {actor : Id} {p : Pass α}

/-- Acting, nothing is remembered. -/
lemma Only.not_remember (acts : p.Only (Request.Acts actor)) :
    p.Only fun request => ∀ memory, request ≠ .remember memory := by
  refine acts.mono fun request acts memory same => ?_
  subst same
  rcases acts with speaks | ⟨_, ⟨⟩⟩
  exact speaks

end Pass

namespace Occasion

variable (occasion : Occasion) (actor : Id)

/-- Sending a message to some actors is delivering it to each of them. -/
theorem sendEach_only {P : Request → Prop} {message : Message} {targets : List Id}
    (all : ∀ target ∈ targets, P (.deliver target message)) : (sendEach message targets).Only P := by
  induction targets with
  | nil => trivial
  | cons target rest ih =>
    obtain ⟨first, others⟩ := List.forall_mem_cons.1 all
    exact ⟨first, fun _ => ih others⟩

theorem sendEach_speaks (message : Message) (targets : List Id) :
    (sendEach message targets).Only (Request.Speaks actor) :=
  sendEach_only fun _ _ => trivial

/-- A reply that an action asks for reports no failure. -/
theorem reply_says (type : String) (payload : Json) :
    (occasion.reply type payload false).Only (Request.Says actor) :=
  sendEach_only fun _ _ => ⟨trivial, rfl⟩

theorem fail_speaks (error : ActionError) :
    (occasion.fail error).Only (Request.Speaks actor) := by
  unfold fail
  split
  · trivial
  · exact sendEach_speaks actor _ _

/-- The end of a pass: one update of the context, and after it nothing if the store carried it
out, and no store operation in any case. -/
theorem finish_eq (activation : Activation) :
    ∃ next, occasion.finish activation = .execute (.update occasion.actor.config.context
        (activation.base.diff activation.working)) next ∧
      (∀ value, next (.ok value) = .done ()) ∧
      ∀ answer, (next answer).Only fun
        | .deliver target _ => target = occasion.actor.id
        | _ => False := by
  refine ⟨_, rfl, fun value => rfl, fun answer => ?_⟩
  cases answer with
  | ok => trivial
  | error cause =>
    dsimp only
    split
    · trivial
    · exact ⟨rfl, fun _ => trivial⟩

/-- A failure is told to those who get replies. -/
theorem fail_writesOrTells (error : ActionError) :
    (occasion.fail error).Only (Request.WritesOrTells (· ∈ occasion.replyTargets)) := by
  unfold fail
  split
  · trivial
  · exact sendEach_only fun _ mem => mem

/-- The end of a pass tells nobody but the actor itself. -/
theorem finish_writesOrTells (activation : Activation) :
    (occasion.finish activation).Only (Request.WritesOrTells (· = occasion.actor.id)) := by
  obtain ⟨next, eq, -, sends⟩ := occasion.finish_eq activation
  rw [eq]
  refine ⟨trivial, fun answer => (sends answer).mono fun request sends => ?_⟩
  cases request with
  | deliver => exact sends
  | _ => exact sends.elim

end Occasion

namespace Activation

open Pass

/-- A list of actions cannot go on in a state, but for an action that fails. -/
inductive Stuck (occasion : Occasion) (activation : Activation) : ActionError → Prop
  /-- A guard cannot be evaluated. -/
  | guard {guard : Guard} {error : ActionError} :
    activation.holds occasion.event guard = .error error → Stuck occasion activation error
  /-- There is no list of a name, or none that is allowed. -/
  | unknown (name : String) :
    Stuck occasion activation (.structural s!"unknown named action '{name}'")

/-- Something that holds of what is run from a state, and is built up as running lists of actions
is; only some actions are allowed, and in the lists that they refer to too. -/
structure Builds (occasion : Occasion) (allowed : Action → Prop)
    (R : Activation → Pass Step → Prop) : Prop where
  /-- It holds where the running ends, -/
  done : ∀ step, R step.2 (.done step)
  /-- of one part after the other, unless the first one stops, -/
  bind : ∀ {activation pass rest}, R activation pass → (∀ step, R step.2 (rest step)) →
    (∀ last, rest (.stop, last) = .done (.stop, last)) → R activation (pass >>= rest)
  /-- of failures, -/
  failed : ∀ activation error, activation.Stuck occasion error →
    R activation (failed activation occasion error)
  /-- and of actions. -/
  action : ∀ activation action, allowed action → R activation (runAction activation occasion action)
  /-- Actions refer to lists of allowed actions only. -/
  find : ∀ {name list}, allowed (.named name) → occasion.named.find? name = some list →
    ∀ action ∈ list, allowed action

namespace Builds

variable {occasion : Occasion} {allowed : Action → Prop} {R : Activation → Pass Step → Prop}
variable {call : String → Activation → Pass Step}

lemma runOne (builds : Builds occasion allowed R)
    (calls : ∀ name activation, allowed (.named name) → R activation (call name activation))
    {action : Action} (may : allowed action) (activation : Activation) :
    R activation (Activation.runOne call occasion action activation) := by
  cases action with
  | named name => exact calls name activation may
  | _ => exact builds.action activation _ may

lemma runWith (builds : Builds occasion allowed R)
    (calls : ∀ name activation, allowed (.named name) → R activation (call name activation))
    {actions : List Action} (all : ∀ action ∈ actions, allowed action) (skipping : Bool)
    (activation : Activation) :
    R activation (Activation.runWith call occasion actions skipping activation) := by
  fun_induction Activation.runWith call occasion actions skipping activation with
  | case1 => exact builds.done (.proceed, _)
  | case2 _ _ _ _ _ _ ih => exact ih (List.forall_mem_cons.1 all).2
  | case3 _ _ _ _ error undecided => exact builds.failed _ _ (.guard undecided)
  | case4 _ _ _ _ ih => exact ih (List.forall_mem_cons.1 all).2
  | case5 action rest skipping activation _ _ ih =>
    obtain ⟨may, others⟩ := List.forall_mem_cons.1 all
    refine builds.bind (builds.runOne calls may activation) (fun step => ?_) fun _ => rfl
    obtain ⟨flow, next⟩ := step
    cases flow with
    | proceed => exact ih next others
    | stop => exact builds.done (.stop, next)

lemma runNamed (builds : Builds occasion allowed R) (levels : Nat) (name : String)
    (activation : Activation) (may : allowed (.named name)) :
    R activation (Activation.runNamed occasion levels name activation) := by
  induction levels generalizing name activation with
  | zero => exact builds.failed _ _ (.unknown name)
  | succ levels ih =>
    unfold Activation.runNamed
    split
    · rename_i list found
      exact builds.runWith ih (builds.find may found) false activation
    · exact builds.failed _ _ (.unknown name)

/-- It holds of a list of allowed actions. -/
theorem run (builds : Builds occasion allowed R) {actions : List Action}
    (all : ∀ action ∈ actions, allowed action) (activation : Activation) :
    R activation (activation.run occasion actions) :=
  builds.runWith (builds.runNamed _) all false activation

end Builds

variable (activation : Activation) (occasion : Occasion)

theorem failed_speaks (actor : Id) (error : ActionError) :
    (activation.failed occasion error).Only (Request.Speaks actor) :=
  only_bind (occasion.fail_speaks actor error) fun _ => trivial

/-- A message that templates resolve to is from the actor, and neither answers nor reports. -/
lemma outbound_eq_ok {occasion : Occasion} {send : SendAction} {message : Message}
    (resolved : activation.outbound occasion send = .ok message) :
    ∃ type payload, message = { type, payload, source := some occasion.actor.id } := by
  simp only [outbound, Bind.bind, Except.bind] at resolved
  split at resolved
  · cases resolved
  · split at resolved
    · split at resolved
      · cases resolved
      · cases resolved
        exact ⟨_, _, rfl⟩
    · cases resolved

theorem runTell_says (actor : Id) (send : SendAction) :
    (activation.runTell occasion send).Only (Request.Says actor) := by
  unfold runTell
  split
  · trivial
  · rename_i message resolved
    obtain ⟨type, payload, rfl⟩ := activation.outbound_eq_ok resolved
    refine ⟨⟨trivial, rfl⟩, fun answer => ?_⟩
    cases answer <;> trivial

theorem runAsk_says (send : SendAction) :
    (activation.runAsk occasion send).Only (Request.Says occasion.actor.id) := by
  unfold runAsk
  split
  · trivial
  · rename_i message resolved
    obtain ⟨type, payload, rfl⟩ := activation.outbound_eq_ok resolved
    refine ⟨⟨trivial, trivial⟩, fun answer => ?_⟩
    cases answer with
    | error => trivial
    | ok accepted =>
      dsimp only
      split
      · refine ⟨⟨rfl, trivial⟩, fun correlation => ⟨⟨trivial, rfl⟩, fun answer => ?_⟩⟩
        cases answer <;> trivial
      · trivial

theorem runFunction_says (actor : Id) (template : Option Json) :
    (activation.runFunction occasion template).Only (Request.Says actor) := by
  unfold runFunction
  split
  · trivial
  · split
    · trivial
    · refine ⟨⟨trivial, trivial⟩, fun answer => ?_⟩
      cases answer with
      | error => trivial
      | ok raw => exact only_bind (occasion.reply_says actor _ _) fun _ => trivial

theorem runInvoke_says (actor target : Id) (template : Option Json) :
    (activation.runInvoke occasion.event target template).Only (Request.Says actor) := by
  unfold runInvoke
  split
  · trivial
  · refine ⟨⟨trivial, trivial⟩, fun answer => ?_⟩
    cases answer <;> trivial

/-- Only an operation makes a request of the store, and no action reports a failure. -/
theorem perform_says {action : Action} (other : ∀ op, action ≠ .op op) :
    (activation.perform occasion action).Only (Request.Says occasion.actor.id) := by
  cases action with
  | op op => exact absurd rfl (other op)
  | tell send => exact activation.runTell_says occasion _ send
  | ask send => exact activation.runAsk_says occasion send
  | function payload => exact activation.runFunction_says occasion _ payload
  | invoke target payload => exact activation.runInvoke_says occasion _ target payload
  | ctx patch => trivial
  | guard guard => trivial
  | named name => trivial

/-- Only an operation makes a request of the store. -/
theorem perform_speaks {action : Action} (other : ∀ op, action ≠ .op op) :
    (activation.perform occasion action).Only (Request.Speaks occasion.actor.id) :=
  (activation.perform_says occasion other).mono fun _ => And.left

end Activation

/-- Requests that the actions of a pass may make: what actions say, and the store operations of the
actions that are allowed, in the lists that they refer to too. -/
structure Occasion.Permits (occasion : Occasion) (allowed : Action → Prop) (P : Request → Prop) :
    Prop where
  /-- All that is no store operation. -/
  speaks : ∀ request, request.Speaks occasion.actor.id → P request
  /-- The store operations that allowed actions come to. -/
  op : ∀ activation action op, allowed (.op action) →
    Activation.storeOp activation occasion.event action = .ok op → P (.execute op)
  /-- Actions refer to lists of allowed actions only. -/
  find : ∀ {name list}, allowed (.named name) → occasion.named.find? name = some list →
    ∀ action ∈ list, allowed action

namespace Activation

open Pass

variable {occasion : Occasion} {allowed : Action → Prop} {P : Request → Prop}
variable (activation : Activation)

lemma perform_only (permits : occasion.Permits allowed P) {action : Action} (may : allowed action) :
    (activation.perform occasion action).Only P := by
  cases action with
  | op action =>
    change (activation.runOp occasion.event action).Only P
    unfold runOp
    split
    · trivial
    · rename_i op resolved
      refine ⟨permits.op activation action op may resolved, fun answer => ?_⟩
      cases answer <;> trivial
  | _ => exact (activation.perform_speaks occasion (by simp)).mono permits.speaks

lemma runAction_only (permits : occasion.Permits allowed P) {action : Action} (may : allowed action) :
    (activation.runAction occasion action).Only P := by
  refine only_bind (perform_only _ permits may) fun result => ?_
  cases result with
  | ok step => trivial
  | error error => exact (failed_speaks _ occasion _ error).mono permits.speaks

/-- Running a list of allowed actions, nothing is asked for but what may be. -/
theorem run_only (permits : occasion.Permits allowed P) {actions : List Action}
    (all : ∀ action ∈ actions, allowed action) : (activation.run occasion actions).Only P := by
  have builds : Builds occasion allowed fun _ pass => pass.Only P := {
    done := fun _ => trivial
    bind := fun first rest _ => only_bind first rest
    failed := fun activation error _ =>
      (activation.failed_speaks occasion _ error).mono permits.speaks
    action := fun activation _ may => activation.runAction_only permits may
    find := permits.find }
  exact builds.run all activation

end Activation

/-! ## Behaviors -/

/-- The lists of actions of a state machine. -/
inductive MachineDefinition.Lists (definition : MachineDefinition) : List Action → Prop
  /-- A named list. -/
  | named {name : String} {list : List Action} :
    definition.named.find? name = some list → definition.Lists list
  /-- What is done on entry to a state. -/
  | entry {state : String} {node : StateNode} :
    definition.states.find? state = some node → definition.Lists node.entry
  /-- What is done on exit from a state. -/
  | exit {state : String} {node : StateNode} :
    definition.states.find? state = some node → definition.Lists node.exit
  /-- What is done in a transition. -/
  | transition {state event : String} {node : StateNode} {candidates : List Candidate}
    {candidate : Candidate} : definition.states.find? state = some node →
    node.on.find? event = some candidates → candidate ∈ candidates →
    definition.Lists candidate.actions

/-- The lists of actions of a process. -/
inductive ProcessDefinition.Lists (definition : ProcessDefinition) : List Action → Prop
  /-- A named list. -/
  | named {name : String} {list : List Action} :
    definition.named.find? name = some list → definition.Lists list
  /-- The handler of an event. -/
  | handler {event : String} {list : List Action} :
    definition.handlers.find? event = some list → definition.Lists list

namespace Behavior

open Pass

/-- The lists of actions of a behavior. -/
def Lists : Behavior → List Action → Prop
  | .machine definition _ _ => definition.Lists
  | .process definition _ => definition.Lists

/-- An action stands in a list of a behavior. -/
def Has (behavior : Behavior) (action : Action) : Prop :=
  ∃ list, behavior.Lists list ∧ action ∈ list

/-- A store operation that an action of a behavior comes to when it handles an event. -/
def Orders (behavior : Behavior) (event : Event) (op : StoreOp) : Prop :=
  ∃ activation action, behavior.Has (.op action) ∧
    Activation.storeOp activation event action = .ok op

/-- Requests that a behavior may make when it handles an event: what its actions ask for, and
around them a look at the context, one update of it and what is remembered. -/
structure Permits (behavior : Behavior) (actor : Actor) (event : Event) (P : Request → Prop) :
    Prop where
  /-- All that is no store operation. -/
  speaks : ∀ request, request.Speaks actor.id → P request
  /-- The store operations that its actions come to. -/
  orders : ∀ op, behavior.Orders event op → P (.execute op)
  /-- The context is read, -/
  read : P (.read actor.config.context)
  /-- and updated. -/
  flush : ∀ patch, P (.execute (.update actor.config.context patch))
  /-- Something is remembered. -/
  remember : ∀ memory, P (.remember memory)

namespace Permits

variable {behavior : Behavior} {actor : Actor} {event : Event} {P : Request → Prop}

lemma occasion (permits : behavior.Permits actor event P) :
    Occasion.Permits ⟨actor, behavior.named, event⟩ behavior.Has P where
  speaks := permits.speaks
  op activation action op has resolved := permits.orders op ⟨activation, action, has, resolved⟩
  find _ found action mem := by
    cases behavior with
    | machine => exact ⟨_, .named found, mem⟩
    | process => exact ⟨_, .named found, mem⟩

lemma finish (permits : behavior.Permits actor event P) (activation : Activation) :
    (Occasion.finish ⟨actor, behavior.named, event⟩ activation).Only P := by
  obtain ⟨next, eq, -, sends⟩ := Occasion.finish_eq ⟨actor, behavior.named, event⟩ activation
  rw [eq]
  refine ⟨permits.flush _, fun answer => (sends answer).mono fun request only => ?_⟩
  cases request with
  | deliver => exact permits.speaks _ trivial
  | _ => exact only.elim

lemma begin (permits : behavior.Permits actor event P) :
    (Activation.begin ⟨actor, behavior.named, event⟩).Only P :=
  ⟨permits.read, fun _ => trivial⟩

end Permits

end Behavior

open Pass Activation

namespace Machine

variable {definition : MachineDefinition} {occasion : Occasion} {allowed : Action → Prop}
variable {P : Request → Prop}

theorem enter_only (permits : occasion.Permits allowed P)
    (may : ∀ list, definition.Lists list → ∀ action ∈ list, allowed action) (state : String)
    (activation : Activation) :
    (enter definition occasion state activation).Only P := by
  unfold enter
  split
  · trivial
  · rename_i node found
    refine only_bind (run_only _ permits (may _ (.entry found))) fun step => ?_
    obtain ⟨flow, activation⟩ := step
    dsimp only
    split
    · split
      · exact only_bind ((Occasion.sendEach_speaks _ _ _).mono permits.speaks) fun _ => trivial
      · trivial
    · trivial

theorem leave_only (permits : occasion.Permits allowed P) {node : StateNode} {candidate : Candidate}
    (exit : ∀ action ∈ node.exit, allowed action)
    (transition : ∀ action ∈ candidate.actions, allowed action) (activation : Activation) :
    (leave occasion node candidate activation).Only P := by
  refine only_bind (run_only _ permits exit) fun step => ?_
  obtain ⟨flow, activation⟩ := step
  cases flow with
  | proceed => exact run_only _ permits transition
  | stop => trivial

theorem arrive_only (permits : occasion.Permits allowed P)
    (may : ∀ list, definition.Lists list → ∀ action ∈ list, allowed action) (source : String)
    (candidate : Candidate) (flow : Flow) (activation : Activation) :
    (arrive definition occasion source candidate flow activation).Only P := by
  unfold arrive
  dsimp only
  split
  · exact enter_only permits may _ _
  · trivial

/-- What actions ask for, whatever they are. -/
lemma acts_permits (occasion : Occasion) :
    occasion.Permits (fun _ => True) (Request.Acts occasion.actor.id) where
  speaks _ := .inl
  op _ _ op _ _ := .inr ⟨op, rfl⟩
  find _ _ _ _ := trivial

theorem leave_acts (occasion : Occasion) (node : StateNode) (candidate : Candidate)
    (activation : Activation) :
    (leave occasion node candidate activation).Only (Request.Acts occasion.actor.id) :=
  leave_only (acts_permits occasion) (fun _ _ => trivial) (fun _ _ => trivial) activation

theorem arrive_acts (definition : MachineDefinition) (occasion : Occasion) (source : String)
    (candidate : Candidate) (flow : Flow) (activation : Activation) :
    (arrive definition occasion source candidate flow activation).Only
      (Request.Acts occasion.actor.id) :=
  arrive_only (acts_permits occasion) (fun _ _ _ _ => trivial) source candidate flow activation

variable {limit : Nat} {suppressed : List String} {actor : Actor} {event : Event}

lemma start_only (permits : (Behavior.machine definition limit suppressed).Permits actor
    initialEvent P) (memory : Memory) : (start definition actor memory).Only P := by
  refine only_bind ⟨permits.read, fun _ => trivial⟩ fun context => ?_
  split
  · exact ⟨permits.remember _, trivial⟩
  · refine only_bind permits.begin fun activation => ?_
    refine only_bind (enter_only permits.occasion (fun list lists action mem => ⟨list, lists, mem⟩)
      _ _) fun activation => ?_
    refine only_bind ⟨permits.remember _, trivial⟩ fun _ => ?_
    exact only_bind (permits.finish _) fun _ => ⟨permits.remember _, trivial⟩

lemma work_only (permits : (Behavior.machine definition limit suppressed).Permits actor event P)
    (memory : Memory) : (work definition limit suppressed actor memory event).Only P := by
  have may : ∀ list, definition.Lists list → ∀ action ∈ list,
      (Behavior.machine definition limit suppressed).Has action :=
    fun list lists action mem => ⟨list, lists, mem⟩
  unfold work
  split
  · trivial
  · rename_i state node candidates found
    refine only_bind permits.begin fun activation => ?_
    dsimp only
    split
    · trivial
    · rename_i candidate chosen
      -- the candidate is one of the state that the machine is in
      simp only [candidates?, Option.bind_eq_bind, Option.bind_eq_some_iff, Option.pure_def,
        Option.some.injEq, Prod.mk.injEq] at found
      obtain ⟨_, -, _, declared, _, listed, rfl, rfl, rfl⟩ := found
      have transition := may _ (.transition declared listed (List.mem_of_find?_eq_some chosen))
      refine only_bind ?_ fun _ => trivial
      refine only_bind ⟨permits.remember _, trivial⟩ fun _ => ?_
      refine only_bind (leave_only permits.occasion (may _ (.exit declared)) transition _)
        fun step => ?_
      refine only_bind ⟨permits.remember _, trivial⟩ fun _ => ?_
      refine only_bind (arrive_only permits.occasion may _ _ _ _) fun activation => ?_
      exact only_bind ⟨permits.remember _, trivial⟩ fun _ => trivial

end Machine

lemma Process.work_only {definition : ProcessDefinition} {suppressed : List String} {actor : Actor}
    {event : Event} {P : Request → Prop}
    (permits : (Behavior.process definition suppressed).Permits actor event P) (memory : Memory) :
    (Process.work definition suppressed actor memory event).Only P := by
  unfold Process.work
  split
  · trivial
  · rename_i actions found
    refine only_bind permits.begin fun activation => ?_
    refine only_bind (run_only _ permits.occasion fun action mem => ⟨actions, .handler found, mem⟩)
      fun _ => ?_
    exact only_bind ⟨permits.remember _, trivial⟩ fun _ => trivial

namespace Behavior

variable {behavior : Behavior} {actor : Actor} {event : Event} {P : Request → Prop}

/-- When it handles an event, a behavior asks for nothing but what it may. -/
theorem send_only (permits : behavior.Permits actor event P) (memory : Memory) :
    (behavior.send actor memory event).Only P := by
  have works : (behavior.work actor memory event).Only P := by
    cases behavior with
    | machine => exact Machine.work_only permits memory
    | process => exact Process.work_only permits memory
  refine only_bind works fun outcome => ?_
  cases outcome with
  | none => trivial
  | some outcome => exact only_bind (permits.finish _) fun _ => trivial

/-- When it starts, a behavior asks for nothing but what it may. -/
theorem start_only (permits : behavior.Permits actor Machine.initialEvent P) (memory : Memory) :
    (behavior.start actor memory).Only P := by
  cases behavior with
  | machine => exact Machine.start_only permits memory
  | process => trivial

lemma asksAs_permits (behavior : Behavior) (actor : Actor) (event : Event) :
    behavior.Permits actor event fun
      | .registerAsk asker _ _ => asker = actor.id
      | _ => True where
  speaks request speaks := by
    cases request with
    | registerAsk => exact speaks
    | _ => trivial
  orders _ _ := trivial
  read := trivial
  flush _ := trivial
  remember _ := trivial

/-- While it handles an event, a behavior asks in the name of its own actor only. -/
theorem send_asksAs (behavior : Behavior) (actor : Actor) (memory : Memory) (event : Event) :
    (behavior.send actor memory event).AsksAs actor.id :=
  send_only (behavior.asksAs_permits actor event) memory

/-- While it starts, a behavior asks in the name of its own actor only. -/
theorem start_asksAs (behavior : Behavior) (actor : Actor) (memory : Memory) :
    (behavior.start actor memory).AsksAs actor.id :=
  start_only (behavior.asksAs_permits actor Machine.initialEvent) memory

end Behavior

end Troupe
