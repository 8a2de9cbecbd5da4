import Troupe.Proofs.Pass.Requests

/-!
# What messages carry

Whatever a pass sends carries the correlation of its event, be it a tell or a reply, so that an
answer finds its way back to whoever asked.  Only an ask carries another one: the one under which it
was noted right before, in the name of the actor.  At the end of a pass, a context that could not be
written is told to the actor alone; this is no reply, and carries nothing.

## Main results

* `Pass.stamps_bind`: what two passes in sequence send is stamped if what each of them sends is;
* `Activation.run_stamps`: what lists of actions send;
* `Behavior.work_stamps`, `Behavior.conclude_stamps`: what the passes of a behavior send.
-/

namespace Troupe

namespace Pass

variable {α β : Type} {actor : Id} {told told' : Option Id → Prop} {asks asks' : Prop}

/-- What a pass sends is sent by the actor.  A message that is told carries one of some
correlations; one that is asked, if the pass may ask at all, is noted in the name of the actor, and
sent right after that with the correlation that it was noted under. -/
inductive Stamps (actor : Id) (told : Option Id → Prop) (asks : Prop) {α : Type} : Pass α → Prop
  /-- A pass that is done sends nothing. -/
  | done (result : α) : Stamps actor told asks (.done result)
  /-- One that reads an object goes on with what it has read, -/
  | read {id : Id} {next : Option Json → Pass α} :
    (∀ answer, Stamps actor told asks (next answer)) → Stamps actor told asks (.read id next)
  /-- and any other one that sends nothing with the answer to what it wants done. -/
  | execute {op : StoreOp} {next : Except StoreError Json → Pass α} :
    (∀ answer, Stamps actor told asks (next answer)) → Stamps actor told asks (.execute op next)
  /-- A tool call goes on with the tool's result. -/
  | callTool {name : String} {view : ActorView} {payload : Json}
    {next : Except ToolError Json → Pass α} :
    (∀ answer, Stamps actor told asks (next answer)) →
    Stamps actor told asks (.callTool name view payload next)
  /-- A look at an interface goes on with its event types. -/
  | interfaceOf {target : Id} {next : Except ActionError (List String) → Pass α} :
    (∀ answer, Stamps actor told asks (next answer)) →
    Stamps actor told asks (.interfaceOf target next)
  /-- An invocation goes on with the result of the other actor's tool. -/
  | invoke {target : Id} {payload : Json} {next : Except ActionError Json → Pass α} :
    (∀ answer, Stamps actor told asks (next answer)) →
    Stamps actor told asks (.invoke target payload next)
  /-- What is remembered is not sent. -/
  | remember {memory : Memory} {next : Pass α} :
    Stamps actor told asks next → Stamps actor told asks (.remember memory next)
  /-- A message is told. -/
  | tell {target : Id} {message : Message} {next : Except ActionError Id → Pass α}
    (source : message.source = some actor) (carries : told message.correlation) :
    (∀ answer, Stamps actor told asks (next answer)) →
    Stamps actor told asks (.deliver target message next)
  /-- A message is noted as an ask, and sent with the correlation that it was noted under. -/
  | ask {target : Id} {message : Message} {next : Id → Except ActionError Id → Pass α}
    (source : message.source = some actor) (may : asks) :
    (∀ noted answer, Stamps actor told asks (next noted answer)) →
    Stamps actor told asks (.registerAsk actor target message.type fun noted =>
      .deliver target { message with correlation := some noted } (next noted))

/-- More may be told and asked. -/
lemma Stamps.mono {pass : Pass α} (stamps : pass.Stamps actor told asks)
    (more : ∀ correlation, told correlation → told' correlation) (may : asks → asks') :
    pass.Stamps actor told' asks' := by
  induction stamps with
  | done result => exact .done result
  | read _ ih => exact .read ih
  | execute _ ih => exact .execute ih
  | callTool _ ih => exact .callTool ih
  | interfaceOf _ ih => exact .interfaceOf ih
  | invoke _ ih => exact .invoke ih
  | remember _ ih => exact .remember ih
  | tell source carries _ ih => exact .tell source (more _ carries) ih
  | ask source asks _ ih => exact .ask source (may asks) ih

/-- What two passes in sequence send is stamped if what each of them sends is. -/
theorem stamps_bind {p : Pass α} {f : α → Pass β} (first : p.Stamps actor told asks)
    (after : ∀ result, (f result).Stamps actor told asks) :
    (p >>= f).Stamps actor told asks := by
  induction first with
  | done result => exact after result
  | read _ ih => exact .read ih
  | execute _ ih => exact .execute ih
  | callTool _ ih => exact .callTool ih
  | interfaceOf _ ih => exact .interfaceOf ih
  | invoke _ ih => exact .invoke ih
  | remember _ ih => exact .remember ih
  | tell source carries _ ih => exact .tell source carries ih
  | ask source may _ ih => exact .ask source may ih

end Pass

open Pass

/-! ## Replies -/

namespace Occasion

variable (occasion : Occasion) {asks : Prop}

lemma sendEach_stamps {actor : Id} {told : Option Id → Prop} {message : Message}
    (source : message.source = some actor) (carries : told message.correlation)
    (targets : List Id) : (sendEach message targets).Stamps actor told asks := by
  induction targets with
  | nil => exact .done ()
  | cons target rest ih => exact .tell source carries fun _ => ih

lemma reply_stamps (type : String) (payload : Json) (automatic : Bool) :
    (occasion.reply type payload automatic).Stamps occasion.actor.id
      (· = occasion.event.correlation) asks := by
  unfold reply
  refine sendEach_stamps ?_ ?_ _ <;> rfl

lemma fail_stamps (error : ActionError) : (occasion.fail error).Stamps occasion.actor.id
    (· = occasion.event.correlation) asks := by
  unfold fail
  split
  · exact .done ()
  · exact occasion.reply_stamps _ _ _

lemma notifySuccess_stamps (result : Json) : (occasion.notifySuccess result).Stamps
    occasion.actor.id (· = occasion.event.correlation) asks := by
  unfold notifySuccess
  refine sendEach_stamps ?_ ?_ _ <;> rfl

/-- What is told at the end of a pass is no reply. -/
lemma finish_stamps (activation : Activation) :
    (occasion.finish activation).Stamps occasion.actor.id (· = none) asks := by
  refine .execute fun answer => ?_
  cases answer with
  | ok => exact .done ()
  | error =>
    dsimp only
    split
    · exact .done ()
    · refine sendEach_stamps ?_ ?_ _ <;> rfl

end Occasion

/-! ## Actions -/

/-- An action that asks. -/
def Action.IsAsk (action : Action) : Prop := ∃ send, action = .ask send

namespace Activation

variable (activation : Activation) (occasion : Occasion) {told : Option Id → Prop} {asks : Prop}

lemma runOp_stamps (op : OpAction) :
    (activation.runOp occasion.event op).Stamps occasion.actor.id told asks := by
  unfold runOp
  split
  · exact .done _
  · refine .execute fun answer => ?_
    cases answer <;> exact .done _

lemma runTell_stamps (send : SendAction) : (activation.runTell occasion send).Stamps
    occasion.actor.id (· = occasion.event.correlation) asks := by
  unfold runTell
  split
  · exact .done _
  · rename_i message resolved
    obtain ⟨type, payload, rfl⟩ := activation.outbound_eq_ok resolved
    refine .tell rfl rfl fun answer => ?_
    cases answer <;> exact .done _

/-- An ask tells nothing. -/
lemma runAsk_stamps (send : SendAction) :
    (activation.runAsk occasion send).Stamps occasion.actor.id told True := by
  unfold runAsk
  split
  · exact .done _
  · rename_i message resolved
    have source : message.source = some occasion.actor.id := by
      obtain ⟨type, payload, rfl⟩ := activation.outbound_eq_ok resolved
      rfl
    refine .interfaceOf fun answer => ?_
    cases answer with
    | error => exact .done _
    | ok accepted =>
      dsimp only
      split
      · refine .ask source trivial fun noted answer => ?_
        cases answer <;> exact .done _
      · exact .done _

lemma runFunction_stamps (template : Option Json) : (activation.runFunction occasion template).Stamps
    occasion.actor.id (· = occasion.event.correlation) asks := by
  unfold runFunction
  split
  · exact .done _
  · split
    · exact .done _
    · refine .callTool fun answer => ?_
      cases answer with
      | error => exact .done _
      | ok raw => exact stamps_bind (occasion.reply_stamps _ _ _) fun _ => .done _

lemma runInvoke_stamps (target : Id) (template : Option Json) :
    (activation.runInvoke occasion.event target template).Stamps occasion.actor.id told asks := by
  unfold runInvoke
  split
  · exact .done _
  · refine .invoke fun answer => ?_
    cases answer <;> exact .done _

/-- An ask sends nothing that was not noted, and no other action notes what it sends. -/
theorem perform_stamps (action : Action) : (activation.perform occasion action).Stamps
    occasion.actor.id (fun carried => ¬ action.IsAsk ∧ carried = occasion.event.correlation)
      action.IsAsk := by
  by_cases isAsk : action.IsAsk
  · obtain ⟨send, rfl⟩ := isAsk
    exact (activation.runAsk_stamps occasion send).mono (fun _ => id) fun _ => ⟨send, rfl⟩
  · have other : (activation.perform occasion action).Stamps occasion.actor.id
        (· = occasion.event.correlation) action.IsAsk := by
      cases action with
      | ask send => exact absurd ⟨send, rfl⟩ isAsk
      | op op => exact activation.runOp_stamps occasion op
      | tell send => exact activation.runTell_stamps occasion send
      | function payload => exact activation.runFunction_stamps occasion payload
      | invoke target payload => exact activation.runInvoke_stamps occasion target payload
      | ctx patch => exact .done _
      | guard guard => exact .done _
      | named name => exact .done _
    exact other.mono (fun _ carries => ⟨isAsk, carries⟩) id

lemma failed_stamps (error : ActionError) : (activation.failed occasion error).Stamps
    occasion.actor.id (· = occasion.event.correlation) asks :=
  stamps_bind (occasion.fail_stamps error) fun _ => .done _

lemma runAction_stamps (action : Action) : (activation.runAction occasion action).Stamps
    occasion.actor.id (· = occasion.event.correlation) True := by
  refine stamps_bind ((perform_stamps _ occasion action).mono (fun _ => And.right)
    fun _ => trivial) fun result => ?_
  cases result with
  | ok step => exact .done _
  | error error => exact failed_stamps _ occasion error

/-- Running a list of actions, everything that is sent is stamped. -/
theorem run_stamps (actions : List Action) : (activation.run occasion actions).Stamps
    occasion.actor.id (· = occasion.event.correlation) True := by
  have builds : Builds occasion (fun _ => True) fun _ pass =>
      pass.Stamps occasion.actor.id (· = occasion.event.correlation) True := {
    done := fun step => .done step
    bind := fun first rest _ => stamps_bind first rest
    failed := fun activation error _ => activation.failed_stamps occasion error
    action := fun activation action _ => activation.runAction_stamps occasion action
    find := fun _ _ _ _ => trivial }
  exact builds.run (fun _ _ => trivial) activation

lemma begin_stamps {actor : Id} : (Activation.begin occasion).Stamps actor told asks :=
  .read fun _ => .done _

end Activation

/-! ## Behaviors -/

lemma Pass.remember_stamps {actor : Id} {told : Option Id → Prop} {asks : Prop} (memory : Memory) :
    (Pass.remember memory (.done ())).Stamps actor told asks :=
  .remember (.done ())

namespace Machine

variable (definition : MachineDefinition) (occasion : Occasion) (activation : Activation)

lemma enter_stamps (state : String) : (enter definition occasion state activation).Stamps
    occasion.actor.id (· = occasion.event.correlation) True := by
  unfold enter
  split
  · exact .done _
  · refine stamps_bind (Activation.run_stamps _ _ _) fun step => ?_
    obtain ⟨flow, activation⟩ := step
    dsimp only
    split
    · split
      · exact stamps_bind (occasion.notifySuccess_stamps _) fun _ => .done _
      · exact .done _
    · exact .done _

lemma leave_stamps (node : StateNode) (candidate : Candidate) :
    (leave occasion node candidate activation).Stamps
      occasion.actor.id (· = occasion.event.correlation) True := by
  refine stamps_bind (activation.run_stamps occasion _) fun step => ?_
  obtain ⟨flow, activation⟩ := step
  cases flow with
  | proceed => exact activation.run_stamps occasion _
  | stop => exact .done _

lemma arrive_stamps (source : String) (candidate : Candidate) (flow : Flow) :
    (arrive definition occasion source candidate flow activation).Stamps
      occasion.actor.id (· = occasion.event.correlation) True := by
  unfold arrive
  dsimp only
  split
  · exact enter_stamps definition occasion _ _
  · exact .done _

lemma work_stamps (limit : Nat) (suppressed : List String) (actor : Actor) (memory : Memory)
    (event : Event) : (work definition limit suppressed actor memory event).Stamps
      actor.id (· = event.correlation) True := by
  unfold work
  split
  · exact .done _
  · refine stamps_bind (Activation.begin_stamps _) fun activation => ?_
    dsimp only
    split
    · exact .done _
    · refine stamps_bind ?_ fun _ => .done _
      refine stamps_bind (remember_stamps _) fun _ => ?_
      refine stamps_bind (leave_stamps (occasion definition actor event) _ _ _) fun step => ?_
      refine stamps_bind (remember_stamps _) fun _ => ?_
      refine stamps_bind (arrive_stamps definition (occasion definition actor event) _ _ _ _)
        fun activation => ?_
      exact stamps_bind (remember_stamps _) fun _ => .done _

lemma start_stamps (actor : Actor) (memory : Memory) :
    (start definition actor memory).Stamps actor.id (· = none) True := by
  refine stamps_bind (.read fun _ => .done _) fun context => ?_
  split
  · exact remember_stamps _
  · refine stamps_bind (Activation.begin_stamps _) fun activation => ?_
    refine stamps_bind (enter_stamps definition (occasion definition actor initialEvent) _ _)
      fun activation => ?_
    refine stamps_bind (remember_stamps _) fun _ => ?_
    exact stamps_bind ((occasion definition actor initialEvent).finish_stamps _)
      fun _ => remember_stamps _

end Machine

lemma Process.work_stamps (definition : ProcessDefinition) (suppressed : List String)
    (actor : Actor) (memory : Memory) (event : Event) :
    (Process.work definition suppressed actor memory event).Stamps
      actor.id (· = event.correlation) True := by
  unfold Process.work
  split
  · exact .done _
  · refine stamps_bind (Activation.begin_stamps _) fun activation => ?_
    refine stamps_bind (activation.run_stamps ⟨actor, definition.named, event⟩ _) fun _ => ?_
    exact stamps_bind (remember_stamps _) fun _ => .done _

namespace Behavior

variable (behavior : Behavior) (actor : Actor) (memory : Memory) (event : Event)

/-- **Whatever a behavior sends that handles an event carries the correlation of the event**, but for
what it asks. -/
theorem work_stamps : (behavior.work actor memory event).Stamps actor.id
    (· = event.correlation) True := by
  cases behavior with
  | machine definition limit suppressed =>
    exact Machine.work_stamps definition limit suppressed actor memory event
  | process definition suppressed =>
    exact Process.work_stamps definition suppressed actor memory event

/-- When that is done, nothing is told that carries a correlation, and nothing is asked. -/
lemma conclude_stamps (outcome : Option (Activation × Dispatch)) :
    (behavior.conclude actor event outcome).Stamps actor.id (· = none) False := by
  cases outcome with
  | none => exact .done _
  | some outcome =>
    exact stamps_bind (Occasion.finish_stamps ⟨actor, behavior.named, event⟩ _) fun _ => .done _

/-- What is told then, the actor tells itself. -/
lemma conclude_writesOrTells (outcome : Option (Activation × Dispatch)) :
    (behavior.conclude actor event outcome).Only (Request.WritesOrTells (· = actor.id)) := by
  cases outcome with
  | none => trivial
  | some outcome =>
    exact only_bind (Occasion.finish_writesOrTells ⟨actor, behavior.named, event⟩ _)
      fun _ => trivial

/-- A behavior that starts has no event to answer. -/
lemma start_stamps : (behavior.start actor memory).Stamps actor.id (· = none) True := by
  cases behavior with
  | machine definition => exact Machine.start_stamps definition actor memory
  | process => exact .done _

end Behavior

end Troupe
