import Troupe.Proofs.Pass.Exchanges

/-!
# What a pass reports

An action that fails ends the pass: the runtime tells the sender of the event and the actor of it,
nothing more is run, and what was staged so far is written as at the end of any pass.  If it cannot
be written, the actor is told of that too.  None of it is told about an ERROR event, so failures do
not feed themselves.

## Main results

* `Activation.run_ran`: a list of actions that fails stops there;
* `Behavior.send_passes`, `Behavior.start_passes`: what passes come to, and what they report;
* `Occasion.Passes.modest`: to whom, and how often.
-/

namespace Troupe

/-! ## Reports -/

/-- The report of a failure that a message is, if it is one: to whom, and what it says. -/
def Message.reportTo? (message : Message) (target : Id) : Option (Id × Message) :=
  if message.automatic then some (target, message) else none

namespace Exchange

/-- The report of a failure, if that is what an exchange is about. -/
def report? : Exchange → Option (Id × Message)
  | .deliver target message _ => message.reportTo? target
  | _ => none

/-- The reports of failures among some exchanges. -/
def reports (log : List Exchange) : List (Id × Message) := log.filterMap report?

variable {first last log : List Exchange}

@[simp] lemma reports_append : reports (first ++ last) = reports first ++ reports last :=
  List.filterMap_append

lemma reports_cons (exchange : Exchange) :
    reports (exchange :: log) = exchange.report?.toList ++ reports log := by
  unfold reports
  rw [List.filterMap_cons]
  cases exchange.report? <;> rfl

end Exchange

open Exchange Pass

lemma Exchange.report?_of_plain {exchange : Exchange} (plain : exchange.request.Plain) :
    exchange.report? = none := by
  cases exchange with
  | deliver target message answer =>
    replace plain : message.automatic = false := plain
    rw [report?, Message.reportTo?, plain]
    rfl
  | _ => rfl

variable {α : Type} {pass : Pass α} {memory after : Memory} {log : List Exchange} {result : α}

/-- A pass that makes plain requests only reports nothing. -/
lemma Pass.Yields.reports_of_plain (yields : pass.Yields memory log result after)
    (plain : pass.Only Request.Plain) : reports log = [] :=
  List.filterMap_eq_nil_iff.2 fun exchange mem =>
    Exchange.report?_of_plain (yields.requests plain exchange mem)

namespace Occasion

variable (occasion : Occasion)

lemma reports_sendEach {message : Message} (automatic : message.automatic = true)
    {targets : List Id} (yields : (sendEach message targets).Yields memory log () after) :
    reports log = targets.map fun target => (target, message) := by
  induction targets generalizing log with
  | nil =>
    obtain ⟨rfl, -⟩ := yields_done.1 yields
    rfl
  | cons target rest ih =>
    obtain ⟨answer, others, rfl, goesOn⟩ := yields_deliver.1 yields
    rw [reports_cons, report?, Message.reportTo?, if_pos automatic, ih goesOn]
    rfl

/-- What is told of a failed action. -/
def report (error : ActionError) : Message where
  type := errorEvent
  payload := error.payload
  source := some occasion.actor.id
  correlation := occasion.event.correlation
  automatic := true

/-- What is told of a context that could not be written. -/
def flushReport (cause : StoreError) : Message where
  type := errorEvent
  payload := (ActionError.ofStore cause).payload
  source := some occasion.actor.id
  automatic := true

/-- The reports of a failed action. -/
def told (error : ActionError) : List (Id × Message) :=
  if occasion.event.name = errorEvent then []
  else occasion.replyTargets.map fun target => (target, occasion.report error)

/-- The reports at the end of a pass, by the answer to the update of the context. -/
def flushTold (answer : Except StoreError Json) : List (Id × Message) :=
  match answer with
  | .ok _ => []
  | .error cause =>
    if occasion.event.name = errorEvent then []
    else [(occasion.actor.id, occasion.flushReport cause)]

/-- The exchanges that tell of a failed action. -/
def Tells (error : ActionError) (log : List Exchange) : Prop :=
  ∃ before after, (occasion.fail error).Yields before log () after

variable {occasion}

lemma Tells.reports {error : ActionError} (tells : occasion.Tells error log) :
    Exchange.reports log = occasion.told error := by
  obtain ⟨before, after, yields⟩ := tells
  rw [fail] at yields
  rw [told]
  split at yields
  · rename_i silent
    obtain ⟨rfl, -⟩ := yields_done.1 yields
    rw [if_pos silent]
    rfl
  · rename_i loud
    rw [if_neg loud]
    exact reports_sendEach rfl yields

end Occasion

/-! ## Actions -/

namespace Activation

variable (activation : Activation) (occasion : Occasion)

/-- While an action is performed, nothing is reported. -/
lemma perform_plain (action : Action) :
    (activation.perform occasion action).Only Request.Plain := by
  cases action with
  | op op =>
    change (activation.runOp occasion.event op).Only _
    unfold runOp
    split
    · trivial
    · refine ⟨trivial, fun answer => ?_⟩
      cases answer <;> trivial
  | _ => exact (activation.perform_says occasion (by simp)).mono fun _ => And.right

/-- A pass fails in a state: a list of actions cannot go on, or an action that was counted
fails. -/
inductive Fails (occasion : Occasion) : Activation → ActionError → Prop
  /-- A list of actions cannot go on. -/
  | stuck {activation : Activation} {error : ActionError} : activation.Stuck occasion error →
    Fails occasion activation error
  /-- An action fails. -/
  | action {activation : Activation} {action : Action} {error : ActionError} {before after : Memory}
    {log : List Exchange} :
    (Activation.perform { activation with actionsRun := activation.actionsRun + 1 } occasion
      action).Yields before log (.error error) after →
    Fails occasion { activation with actionsRun := activation.actionsRun + 1 } error

/-- How the running of actions went, with these exchanges, up to a state. -/
inductive Ran (occasion : Occasion) (log : List Exchange) : Flow → Activation → Prop
  /-- Nothing failed. -/
  | well {flow : Flow} {last : Activation} : reports log = [] → Ran occasion log flow last
  /-- It failed in that state, and stopped when that was told. -/
  | failed {last : Activation} {error : ActionError} {acts tells : List Exchange} :
    log = acts ++ tells → reports acts = [] → last.Fails occasion error →
    occasion.Tells error tells → Ran occasion log .stop last

variable {activation occasion}

/-- What is run after something that did not fail. -/
lemma Ran.append {first rest : List Exchange} {flow : Flow} {last : Activation}
    (well : reports first = []) (ran : Ran occasion rest flow last) :
    Ran occasion (first ++ rest) flow last := by
  cases ran with
  | well same => exact .well (by rw [reports_append, well, same]; rfl)
  | @failed _ error acts tells eq plain fails told =>
    have split : first ++ rest = (first ++ acts) ++ tells := by rw [eq, List.append_assoc]
    refine .failed split ?_ fails told
    rw [reports_append, well, plain]
    rfl

lemma failed_ran {error : ActionError} {step : Step} (fails : activation.Fails occasion error)
    (yields : (failed activation occasion error).Yields memory log step after) :
    Ran occasion log step.1 step.2 := by
  obtain ⟨tells, rest, ⟨⟩, middle, rfl, told, ends⟩ := yields_bind.1 yields
  obtain ⟨rfl, rfl, -⟩ := yields_done.1 ends
  have split : tells ++ [] = [] ++ tells := List.append_nil tells
  exact .failed split rfl fails ⟨_, _, told⟩

lemma runAction_ran {action : Action} {step : Step}
    (yields : (activation.runAction occasion action).Yields memory log step after) :
    Ran occasion log step.1 step.2 := by
  obtain ⟨acts, rest, outcome, middle, rfl, performed, ends⟩ := yields_bind.1 yields
  have plain := performed.reports_of_plain (perform_plain _ occasion action)
  cases outcome with
  | ok done =>
    obtain ⟨rfl, rfl, -⟩ := yields_done.1 ends
    exact .well (by rw [List.append_nil, plain])
  | error error => exact (failed_ran (.action performed) ends).append plain

/-- However a list of actions is run, it fails once at most, and stops then. -/
theorem run_ran {actions : List Action} {step : Step}
    (yields : (activation.run occasion actions).Yields memory log step after) :
    Ran occasion log step.1 step.2 := by
  have builds : Builds occasion (fun _ => True) fun _ pass => ∀ {before log step after},
      pass.Yields before log step after → Ran occasion log step.1 step.2 := {
    done := fun step {_ _ _ _} yields => by
      obtain ⟨rfl, -⟩ := yields_done.1 yields
      exact .well rfl
    bind := fun {_ _ rest} ran goesOn stops {_ _ _ _} yields => by
      obtain ⟨first, others, ⟨flow, last⟩, middle, rfl, begins, ends⟩ := yields_bind.1 yields
      cases ran begins with
      | well plain => exact (goesOn _ ends).append plain
      | failed eq plain fails tells =>
        -- nothing is run after a failure
        replace ends : (rest (.stop, last)).Yields _ _ _ _ := ends
        rw [stops last] at ends
        obtain ⟨rfl, rfl, -⟩ := yields_done.1 ends
        exact .failed (by rw [List.append_nil, eq]) plain fails tells
    failed := fun activation error stuck {_ _ _ _} yields => failed_ran (.stuck stuck) yields
    action := fun activation action _ {_ _ _ _} yields => runAction_ran yields
    find := fun _ _ _ _ => trivial }
  exact builds.run (fun _ _ => trivial) activation yields

end Activation

/-! ## Passes -/

namespace Occasion

/-- How the work of a pass went, with these exchanges, up to a state. -/
inductive Worked (occasion : Occasion) (log : List Exchange) : Activation → Prop
  /-- Nothing failed. -/
  | well {last : Activation} : reports log = [] → Worked occasion log last
  /-- It failed and stopped when that was told: only the name of a state was staged after it. -/
  | failed {failing last : Activation} {error : ActionError} {acts tells : List Exchange} :
    log = acts ++ tells → reports acts = [] → failing.Fails occasion error →
    occasion.Tells error tells →
    (last = failing ∨ ∃ state, last = { failing with state := some state }.stageState state) →
    Worked occasion log last

/-- What a pass came to that handles an event. -/
inductive Passes (occasion : Occasion) (log : List Exchange) : Prop
  /-- There was nothing to do: at most the context was read. -/
  | nothing : (∀ exchange ∈ log, ∃ answer, exchange = .read occasion.actor.config.context answer) →
    Passes occasion log
  /-- After the work, what was staged was written to the context, and this was the last that was
  done; if it was refused, the actor is told of that. -/
  | flushed {last : Activation} {work rest : List Exchange} {answer : Except StoreError Json} :
    log = work ++ .execute (.update occasion.actor.config.context
      (last.base.diff last.working)) answer :: rest →
    occasion.Worked work last →
    rest.map Exchange.report? = (occasion.flushTold answer).map some →
    Passes occasion log

variable {occasion : Occasion}

lemma Worked.append {first rest : List Exchange} {last : Activation} (well : reports first = [])
    (worked : occasion.Worked rest last) : occasion.Worked (first ++ rest) last := by
  cases worked with
  | well same => exact .well (by rw [reports_append, well, same]; rfl)
  | @failed failing _ error acts tells eq plain fails told staged =>
    have split : first ++ rest = (first ++ acts) ++ tells := by rw [eq, List.append_assoc]
    refine .failed split ?_ fails told staged
    rw [reports_append, well, plain]
    rfl

lemma Worked.of_ran {flow : Flow} {last : Activation}
    (ran : Activation.Ran occasion log flow last) : occasion.Worked log last := by
  cases ran with
  | well same => exact .well same
  | failed eq plain fails told => exact .failed eq plain fails told (.inl rfl)

/-- What ends a pass is written once, and at most one report follows. -/
lemma finish_passes {work : List Exchange} {last : Activation} (worked : occasion.Worked work last)
    (yields : (occasion.finish last).Yields memory log () after) :
    occasion.Passes (work ++ log) := by
  obtain ⟨answer, rest, rfl, goesOn⟩ := yields_execute.1 yields
  refine .flushed rfl worked ?_
  cases answer with
  | ok value =>
    obtain ⟨rfl, -⟩ := yields_done.1 goesOn
    rfl
  | error cause =>
    dsimp only at goesOn
    split at goesOn
    · rename_i silent
      obtain ⟨rfl, -⟩ := yields_done.1 goesOn
      rw [Occasion.flushTold, if_pos silent]
      rfl
    · rename_i loud
      obtain ⟨answer, others, rfl, ends⟩ := yields_deliver.1 goesOn
      obtain ⟨rfl, -⟩ := yields_done.1 ends
      rw [Occasion.flushTold, if_neg loud]
      rfl

end Occasion

namespace Machine

variable {definition : MachineDefinition} {occasion : Occasion} {activation last : Activation}

lemma enter_ran {state : String}
    (yields : (enter definition occasion state activation).Yields memory log last after) :
    ∃ flow, Activation.Ran occasion log flow last := by
  unfold enter at yields
  split at yields
  · obtain ⟨rfl, -⟩ := yields_done.1 yields
    exact ⟨.proceed, .well rfl⟩
  · obtain ⟨first, rest, ⟨flow, middle⟩, _, rfl, begins, ends⟩ := yields_bind.1 yields
    have ran := Activation.run_ran begins
    dsimp only at ends ran
    split at ends
    · -- what was run did not fail, and a success is told of at most
      have plain : reports first = [] := by
        cases ran with
        | well same => exact same
      refine ⟨.proceed, .append plain (.well ?_)⟩
      split at ends
      · obtain ⟨sent, others, ⟨⟩, _, rfl, notified, done⟩ := yields_bind.1 ends
        obtain ⟨rfl, -⟩ := yields_done.1 done
        rw [List.append_nil]
        exact notified.reports_of_plain (Occasion.sendEach_only fun _ _ => rfl)
      · obtain ⟨rfl, -⟩ := yields_done.1 ends
        rfl
    · obtain ⟨rfl, rfl, -⟩ := yields_done.1 ends
      exact ⟨_, (List.append_nil first).symm ▸ ran⟩

lemma leave_ran {node : StateNode} {candidate : Candidate} {step : Activation.Step}
    (yields : (leave occasion node candidate activation).Yields memory log step after) :
    Activation.Ran occasion log step.1 step.2 := by
  obtain ⟨first, rest, ⟨flow, middle⟩, _, rfl, begins, ends⟩ := yields_bind.1 yields
  have ran := Activation.run_ran begins
  cases flow with
  | proceed =>
    cases ran with
    | well plain => exact (Activation.run_ran ends).append plain
  | stop =>
    obtain ⟨rfl, rfl, -⟩ := yields_done.1 ends
    rwa [List.append_nil]

/-- Arriving in a state after a failure, nothing is run. -/
lemma arrive_worked {source : String} {candidate : Candidate} {flow : Flow}
    {first : List Exchange} (ran : Activation.Ran occasion first flow activation)
    (yields : (arrive definition occasion source candidate flow activation).Yields memory log last
      after) : occasion.Worked (first ++ log) last := by
  unfold arrive at yields
  dsimp only at yields
  split at yields
  · rename_i goesOn
    cases ran with
    | well plain =>
      obtain ⟨flow, entered⟩ := enter_ran yields
      exact (Occasion.Worked.of_ran entered).append plain
    | failed => cases goesOn.1
  · obtain ⟨rfl, rfl, -⟩ := yields_done.1 yields
    rw [List.append_nil]
    cases ran with
    | well plain => exact .well plain
    | failed eq plain fails told => exact .failed eq plain fails told (.inr ⟨_, rfl⟩)

variable {actor : Actor} {event : Event}

lemma take_worked {limit : Nat} {suppressed : List String} {source : String} {node : StateNode}
    {candidate : Candidate} {result : Activation × Dispatch}
    (yields : (take definition limit suppressed actor event memory source node candidate
      activation).Yields memory log result after) :
    Occasion.Worked ⟨actor, definition.named, event⟩ log result.1 := by
  obtain ⟨_, _, ⟨⟩, _, eq₁, remembers, yields⟩ := yields_bind.1 yields
  obtain ⟨rfl, -⟩ := yields_done.1 (yields_remember.1 remembers)
  obtain ⟨_, _, ⟨_, _⟩, _, eq₂, left, yields⟩ := yields_bind.1 yields
  obtain ⟨_, _, ⟨⟩, _, eq₃, remembers, yields⟩ := yields_bind.1 yields
  obtain ⟨rfl, -⟩ := yields_done.1 (yields_remember.1 remembers)
  obtain ⟨_, _, _, _, eq₄, arrived, yields⟩ := yields_bind.1 yields
  obtain ⟨_, _, ⟨⟩, _, eq₅, remembers, yields⟩ := yields_bind.1 yields
  obtain ⟨rfl, -⟩ := yields_done.1 (yields_remember.1 remembers)
  obtain ⟨rfl, rfl, -⟩ := yields_done.1 yields
  -- what is remembered on the way is no exchange
  rw [eq₁, eq₂, eq₃, eq₄, eq₅, List.nil_append, List.nil_append, List.append_nil, List.append_nil]
  exact arrive_worked (leave_ran left) arrived

end Machine

namespace Behavior

variable {behavior : Behavior} {actor : Actor} {event : Event}

/-- What the work of a pass comes to: to nothing, if at most the context was read, or to a state
after that. -/
def Comes (behavior : Behavior) (actor : Actor) (event : Event) (log : List Exchange) :
    Option (Activation × Dispatch) → Prop
  | none => ∀ exchange ∈ log, ∃ answer, exchange = .read actor.config.context answer
  | some result => Occasion.Worked ⟨actor, behavior.named, event⟩ log result.1

lemma work_comes {outcome : Option (Activation × Dispatch)}
    (yields : (behavior.work actor memory event).Yields memory log outcome after) :
    behavior.Comes actor event log outcome := by
  cases behavior with
  | machine definition limit suppressed =>
    change (Machine.work definition limit suppressed actor memory event).Yields _ _ _ _ at yields
    unfold Machine.work at yields
    split at yields
    · obtain ⟨rfl, rfl, -⟩ := yields_done.1 yields
      exact fun _ mem => nomatch mem
    · obtain ⟨first, rest, activation, _, eq, begins, yields⟩ := yields_bind.1 yields
      obtain ⟨answer, _, rfl, done⟩ := yields_read.1 begins
      obtain ⟨rfl, rfl, rfl⟩ := yields_done.1 done
      dsimp only at yields
      split at yields
      · obtain ⟨rfl, rfl, -⟩ := yields_done.1 yields
        rw [eq]
        exact fun exchange mem => ⟨answer, List.mem_singleton.1 mem⟩
      · obtain ⟨taken, others, result, _, eq', took, done⟩ := yields_bind.1 yields
        obtain ⟨rfl, rfl, -⟩ := yields_done.1 done
        rw [eq, eq', List.append_nil]
        exact (Machine.take_worked took).append rfl
  | process definition suppressed =>
    change (Process.work definition suppressed actor memory event).Yields _ _ _ _ at yields
    unfold Process.work at yields
    split at yields
    · obtain ⟨rfl, rfl, -⟩ := yields_done.1 yields
      exact fun _ mem => nomatch mem
    · obtain ⟨first, rest, activation, _, eq₁, begins, yields⟩ := yields_bind.1 yields
      obtain ⟨answer, _, rfl, done⟩ := yields_read.1 begins
      obtain ⟨rfl, rfl, rfl⟩ := yields_done.1 done
      obtain ⟨ran, others, ⟨flow, last⟩, _, eq₂, running, yields⟩ := yields_bind.1 yields
      obtain ⟨_, _, ⟨⟩, _, eq₃, remembers, yields⟩ := yields_bind.1 yields
      obtain ⟨rfl, -⟩ := yields_done.1 (yields_remember.1 remembers)
      obtain ⟨rfl, rfl, -⟩ := yields_done.1 yields
      rw [eq₁, eq₂, eq₃, List.append_nil, List.append_nil]
      exact (Occasion.Worked.of_ran (Activation.run_ran running)).append rfl

/-- **What a pass over an event comes to.** -/
theorem send_passes {dispatch : Dispatch}
    (yields : (behavior.send actor memory event).Yields memory log dispatch after) :
    Occasion.Passes ⟨actor, behavior.named, event⟩ log := by
  obtain ⟨work, rest, outcome, _, rfl, works, ends⟩ := yields_bind.1 yields
  have comes := work_comes works
  cases outcome with
  | none =>
    obtain ⟨rfl, -⟩ := yields_done.1 ends
    rw [List.append_nil]
    exact .nothing comes
  | some result =>
    obtain ⟨last, dispatch⟩ := result
    obtain ⟨flush, others, ⟨⟩, _, rfl, finishes, done⟩ := yields_bind.1 ends
    obtain ⟨rfl, -⟩ := yields_done.1 done
    rw [List.append_nil]
    exact Occasion.finish_passes comes finishes

/-- What a start pass comes to. -/
theorem start_passes (yields : (behavior.start actor memory).Yields memory log () after) :
    Occasion.Passes ⟨actor, behavior.named, Machine.initialEvent⟩ log := by
  cases behavior with
  | process definition suppressed =>
    obtain ⟨rfl, -⟩ := yields_done.1 yields
    exact .nothing fun _ mem => nomatch mem
  | machine definition limit suppressed =>
    change (Machine.start definition actor memory).Yields _ _ _ _ at yields
    unfold Machine.start at yields
    obtain ⟨first, rest, context, _, eq₁, looks, yields⟩ := yields_bind.1 yields
    obtain ⟨_, _, rfl, done⟩ := yields_read.1 looks
    obtain ⟨rfl, rfl, rfl⟩ := yields_done.1 done
    dsimp only at yields
    split at yields
    · obtain ⟨rfl, -⟩ := yields_done.1 (yields_remember.1 yields)
      rw [eq₁]
      exact .nothing fun exchange mem => ⟨context, List.mem_singleton.1 mem⟩
    · obtain ⟨_, _, activation, _, eq₂, begins, yields⟩ := yields_bind.1 yields
      obtain ⟨answer, _, rfl, done⟩ := yields_read.1 begins
      obtain ⟨rfl, rfl, rfl⟩ := yields_done.1 done
      obtain ⟨entering, _, last, _, eq₃, enters, yields⟩ := yields_bind.1 yields
      obtain ⟨_, _, ⟨⟩, _, eq₄, remembers, yields⟩ := yields_bind.1 yields
      obtain ⟨rfl, -⟩ := yields_done.1 (yields_remember.1 remembers)
      obtain ⟨flush, _, ⟨⟩, _, eq₅, finishes, yields⟩ := yields_bind.1 yields
      obtain ⟨rfl, -⟩ := yields_done.1 (yields_remember.1 yields)
      obtain ⟨flow, ran⟩ := Machine.enter_ran enters
      have worked := (Occasion.Worked.of_ran ran).append (rfl : reports
        [.read actor.config.context context, .read actor.config.context answer] = [])
      have passes := Occasion.finish_passes worked finishes
      rw [eq₁, eq₂, eq₃, eq₄, eq₅, List.nil_append, List.append_nil]
      rw [List.append_assoc] at passes
      exact passes

end Behavior

namespace Occasion

variable {occasion : Occasion}

/-- What a pass reports: the failure of an action, if one failed, and then that the context was
refused, if it was; and nothing if the event is an ERROR. -/
theorem Passes.reports (passes : occasion.Passes log) : ∃ told flush,
    Exchange.reports log = told ++ flush ∧
      (told = [] ∨ ∃ error, told = occasion.told error) ∧
      (flush = [] ∨ ∃ cause, flush = [(occasion.actor.id, occasion.flushReport cause)]) ∧
      (occasion.event.name = errorEvent → told = [] ∧ flush = []) := by
  cases passes with
  | nothing only =>
    refine ⟨[], [], List.filterMap_eq_nil_iff.2 fun exchange mem => ?_, .inl rfl, .inl rfl,
      fun _ => ⟨rfl, rfl⟩⟩
    obtain ⟨answer, rfl⟩ := only exchange mem
    rfl
  | @flushed last work rest answer eq worked ends =>
    have flush : Exchange.reports rest = occasion.flushTold answer := by
      have same : Exchange.reports rest = (rest.map report?).filterMap id := by
        rw [List.filterMap_map]
        rfl
      rw [same, ends, List.filterMap_map]
      exact List.filterMap_some
    have told : Exchange.reports work = [] ∨
        ∃ error, Exchange.reports work = occasion.told error := by
      cases worked with
      | well plain => exact .inl plain
      | failed eq plain fails tells staged =>
        rw [eq, reports_append, plain, tells.reports]
        exact .inr ⟨_, rfl⟩
    refine ⟨_, occasion.flushTold answer, ?_, told, ?_, fun silent => ⟨?_, ?_⟩⟩
    · rw [eq, reports_append, reports_cons, flush]
      rfl
    · cases answer with
      | ok value => exact .inl rfl
      | error cause =>
        rw [flushTold]
        split
        · exact .inl rfl
        · exact .inr ⟨cause, rfl⟩
    · rcases told with none | ⟨error, told⟩
      · exact none
      · rw [told, Occasion.told, if_pos silent]
    · cases answer with
      | ok value => rfl
      | error cause => rw [flushTold, if_pos silent]

lemma replyTargets_cases (occasion : Occasion) :
    occasion.replyTargets = [occasion.actor.id] ∨ ∃ source, source ≠ occasion.actor.id ∧
      occasion.event.source = some source ∧
      occasion.replyTargets = [source, occasion.actor.id] := by
  unfold replyTargets
  cases sender : occasion.event.source with
  | none => exact .inl rfl
  | some source =>
    by_cases own : source = occasion.actor.id
    · exact .inl (if_pos own)
    · exact .inr ⟨source, own, rfl, if_neg own⟩

end Occasion

/-- What an actor reports of a message that it handles is bounded. -/
structure Modest (actor : Id) (type : String) (source : Option Id) (told : List (Id × Message)) :
    Prop where
  /-- Nothing is told of an ERROR. -/
  silent : type = errorEvent → told = []
  /-- The sender is told once at most, and nobody else is told, -/
  others : ∀ target, target ≠ actor →
    (told.map Prod.fst).count target ≤ if source = some target then 1 else 0
  /-- but for the actor itself: twice at most. -/
  self : (told.map Prod.fst).count actor ≤ 2
  /-- So three reports are sent at most, -/
  total : told.length ≤ 3
  /-- and all are sent by the actor. -/
  senders : ∀ report ∈ told, report.2.source = some actor

namespace Modest

variable {actor : Id} {type : String} {source : Option Id} {told part : List (Id × Message)}

protected lemma nil : Modest actor type source [] :=
  ⟨fun _ => rfl, fun _ _ => Nat.zero_le _, Nat.zero_le _, Nat.zero_le _, by simp⟩

lemma of_part (modest : Modest actor type source told) (first : part <+: told) :
    Modest actor type source part where
  silent error := List.prefix_nil.1 (modest.silent error ▸ first)
  others target other :=
    Nat.le_trans ((first.map _).sublist.count_le target) (modest.others target other)
  self := Nat.le_trans ((first.map _).sublist.count_le actor) modest.self
  total := Nat.le_trans first.length_le modest.total
  senders report mem := modest.senders report (first.subset mem)

end Modest

namespace Occasion.Passes

variable {occasion : Occasion}

/-- The sender of the event is told of a failed action, and the actor of that and of a context that
was refused. -/
lemma targets (passes : occasion.Passes log) : ((Exchange.reports log).map Prod.fst).Sublist
    (occasion.replyTargets ++ [occasion.actor.id]) := by
  obtain ⟨told, flush, eq, acted, flushed, -⟩ := passes.reports
  rw [eq, List.map_append]
  refine .append ?_ ?_
  · rcases acted with rfl | ⟨error, rfl⟩
    · exact List.nil_sublist _
    · rw [told]
      split
      · exact List.nil_sublist _
      · rw [List.map_map]
        exact (List.map_id' occasion.replyTargets).symm ▸ .refl _
  · rcases flushed with rfl | ⟨cause, rfl⟩
    · exact List.nil_sublist _
    · exact .refl _

lemma senders (passes : occasion.Passes log) :
    ∀ report ∈ Exchange.reports log, report.2.source = some occasion.actor.id := by
  obtain ⟨told, flush, eq, acted, flushed, -⟩ := passes.reports
  intro report mem
  rw [eq] at mem
  rcases List.mem_append.1 mem with mem | mem
  · rcases acted with rfl | ⟨error, rfl⟩
    · cases mem
    · rw [Occasion.told] at mem
      split at mem
      · cases mem
      · obtain ⟨target, -, rfl⟩ := List.mem_map.1 mem
        rfl
  · rcases flushed with rfl | ⟨cause, rfl⟩
    · cases mem
    · rw [List.mem_singleton.1 mem]
      rfl

/-- **What is reported of a pass is bounded.** -/
theorem modest (passes : occasion.Passes log) :
    Modest occasion.actor.id occasion.event.name occasion.event.source (Exchange.reports log) := by
  have bound := passes.targets
  have length : ((Exchange.reports log).map Prod.fst).length = (Exchange.reports log).length :=
    List.length_map _
  refine ⟨fun error => ?_, fun target other => Nat.le_trans (bound.count_le target) ?_,
    Nat.le_trans (bound.count_le _) ?_, Nat.le_trans (length ▸ bound.length_le) ?_, passes.senders⟩
  · obtain ⟨told, flush, eq, -, -, silent⟩ := passes.reports
    obtain ⟨rfl, rfl⟩ := silent error
    exact eq
  all_goals
    rcases occasion.replyTargets_cases with targets | ⟨source, ne, sender, targets⟩
  · rw [targets]
    simp [other.symm]
  · rw [targets, sender]
    by_cases same : source = target <;> simp [other.symm, same]
  all_goals simp [*]

end Occasion.Passes

end Troupe
