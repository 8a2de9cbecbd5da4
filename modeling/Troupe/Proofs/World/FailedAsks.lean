import Troupe.Proofs.World.Asks
import Troupe.Proofs.World.Keeps

/-!
# Asks that fail

An ask can fail before its request is entered: its templates do not resolve, the record of its
target cannot be read, or the target does not accept the event.  Then nothing has happened
(`Activation.Declined`).  It can also fail after that, when the message is not delivered
(`Activation.Refused`).  Then the request waits although no answer can come, and the asker is told
of the failure at once and of a timeout later (`World.Strands`).

## Main results

* `Engine.runPass_runAsk`: what running an ask comes to;
* `Engine.runPass_runAsk_error`: an ask that failed was declined or refused;
* `World.strands_of_refused`: what a refused ask leaves behind;
* `Engine.failed_ask`: all of it, and that the rest of the pass clears up nothing.
-/

namespace Troupe

namespace World

variable {before after : World}

/-- The request that an ask is entered as. -/
def request (world : World) (asker target : Id) (event : String) : PendingAsk :=
  ⟨asker, target, event,
    (world.clock.later? world.clock.now world.askTimeout).getD world.clock.latest⟩

/-- What is left of an ask that failed although its request was entered. -/
structure Strands (before : World) (request : PendingAsk) (after : World) : Prop where
  /-- The request waits beside those that waited before. -/
  pending : after.pending = before.pending.insert before.correlations.next request
  /-- It goes on waiting until it is settled, like the request of any other ask. -/
  lasts : after.Ledger → ∀ later, Moves after later → later.correlations.Fresh →
    Note.restored ∉ later.journal →
    later.pending.find? before.correlations.next = some request ∨
      ∃ note ∈ later.journal, note.settles before.correlations.next
  /-- When its deadline has come it is overdue, -/
  overdue : ∀ now, request.deadline ≤ now →
    (after.overdue now).find? before.correlations.next = some request
  /-- and its asker, who was told of the failure, is told that nobody replied. -/
  told : ∀ now, request.deadline ≤ now →
    .sent request.asker (after.timeoutMessage request) ∈ (after.tellTimeouts now).journal

/-- An ask waits from when it was noted until a note settles it. -/
lemma Ledger.waits_or_settled {correlation : Id} {ask : PendingAsk} (ledger : after.Ledger)
    (asked : Note.asked correlation ask ∈ after.journal) :
    after.pending.find? correlation = some ask ∨
      ∃ note ∈ after.journal, note.settles correlation := by
  by_cases settled : ∃ note ∈ after.journal, note.settles correlation
  · exact .inr settled
  · exact .inl ((ledger.pending correlation ask).2
      ⟨asked, fun note mem settles => settled ⟨note, mem, settles⟩⟩)

/-- The asker of an overdue request is sent a message. -/
lemma sent_of_overdue {now : Int} {correlation : Id} {ask : PendingAsk}
    (overdue : (after.overdue now).find? correlation = some ask) :
    .sent ask.asker (after.timeoutMessage ask) ∈ (after.tellTimeouts now).journal := by
  have sent := (foldl_tellTimeout now (after.overdue now).entries (after.timeOut now)).2
  have mem : Note.sent ask.asker ((after.timeOut now).timeoutMessage ask) ∈
      (after.tellTimeouts now).journal.filter Note.isSent := by
    rw [tellTimeouts, sent]
    have listed : (correlation, ask) ∈ (after.overdue now).entries := Table.mem_entries.2 overdue
    exact List.mem_append_left _
      (List.mem_reverse.2 (List.mem_map.2 ⟨(correlation, ask), listed, rfl⟩))
  exact (List.mem_filter.1 mem).1

/-- A request that was entered, and whose message was then posted, is left to wait, whatever the
post came to. -/
lemma strands_of_post {asker target : Id} {event : String} {message : Message}
    (posted : ((before.registerAsk asker target event).2.post target message).2 = after) :
    before.Strands (before.request asker target event) after := by
  have storeFrame := (before.registerAsk asker target event).2.post_storeFrame target message
  rw [posted] at storeFrame
  have pending : after.pending = before.pending.insert before.correlations.next
      (before.request asker target event) := storeFrame.pending
  have waits : after.pending.find? before.correlations.next =
      some (before.request asker target event) := by
    rw [pending, Table.find?_insert, if_pos rfl]
  have overdue : ∀ now, (before.request asker target event).deadline ≤ now →
      (after.overdue now).find? before.correlations.next =
        some (before.request asker target event) := by
    intro now due
    rw [World.overdue, Table.find?_filter, waits, Option.filter_some, if_pos (decide_eq_true due)]
  refine ⟨pending, ?_, overdue, fun now due => sent_of_overdue (overdue now due)⟩
  intro ledger later moves fresh unrestored
  have asked := ((ledger.pending _ _).1 waits).1
  exact (ledger.moves moves fresh unrestored).waits_or_settled (moves.suffix.subset asked)

end World

/-! ## Running an ask -/

namespace Activation

variable (activation : Activation) (occasion : Occasion) (send : SendAction) (world : World)

/-- The state in which one more action runs. -/
def counted : Activation := { activation with actionsRun := activation.actionsRun + 1 }

/-- An ask fails before its request is entered. -/
inductive Declined : ActionError → Prop
  /-- A template does not resolve. -/
  | unresolved {error : ActionError} : activation.outbound occasion send = .error error →
    Declined error
  /-- The record of the target cannot be read. -/
  | unreadable {message : Message} {error : ActionError} :
    activation.outbound occasion send = .ok message →
    world.interfaceOf send.target = .error error → Declined error
  /-- The target does not accept the event. -/
  | outside {message : Message} {accepted : List String} :
    activation.outbound occasion send = .ok message →
    world.interfaceOf send.target = .ok accepted → accepted.contains message.type = false →
    Declined (.structural s!"actor {send.target.text} does not accept '{message.type}'")

/-- An ask fails after its request was entered: the inbox of the target is not there, or it cannot
be written to. -/
structure Refused (message : Message) (error : ActionError) (after : World) : Prop where
  /-- The templates resolve, -/
  resolved : activation.outbound occasion send = .ok message
  /-- the target accepts the event, -/
  accepted : ∃ accepted, world.interfaceOf send.target = .ok accepted ∧
    accepted.contains message.type = true
  /-- and the message is not delivered. -/
  lost : ∃ cause, error = .ofRuntime cause ∧
    (world.registerAsk occasion.actor.id send.target message.type).2.post send.target
      { message with correlation := some world.correlations.next } = (.error cause, after)

end Activation

namespace Engine

variable (engine : Engine) (actor : Id) {activation : Activation} {occasion : Occasion}
variable {send : SendAction} {world after : World} {error : ActionError}

/-- Running an ask, spelt out. -/
lemma runPass_runAsk (activation : Activation) (occasion : Occasion) (send : SendAction)
    (world : World) :
    engine.runPass actor (activation.runAsk occasion send) world =
      match activation.outbound occasion send with
      | .error error => .ok (.error error) world
      | .ok message =>
        match world.interfaceOf send.target with
        | .error error => .ok (.error error) world
        | .ok accepted =>
          if accepted.contains message.type then
            match engine.post send.target
                { message with correlation := some world.correlations.next }
                (world.registerAsk occasion.actor.id send.target message.type).2 with
            | .ok (.ok _) after => .ok (.ok (.stop, activation)) after
            | .ok (.error cause) after => .ok (.error (.ofRuntime cause)) after
            | .error halt after => .error halt after
          else .ok (.error (.structural
            s!"actor {send.target.text} does not accept '{message.type}'")) world := by
  unfold Activation.runAsk
  cases activation.outbound occasion send with
  | error error => rfl
  | ok message =>
    dsimp only
    refine (Run.get_bind _ _).trans ?_
    cases world.interfaceOf send.target with
    | error error => rfl
    | ok accepted =>
      dsimp only
      by_cases accepts : accepted.contains message.type = true
      · rw [if_pos accepts, if_pos accepts]
        refine (Run.modifyGet_bind _ _ _).trans ?_
        cases posted : engine.post send.target
            { message with correlation := some world.correlations.next }
            (world.registerAsk occasion.actor.id send.target message.type).2 with
        | error halt after => exact Run.bind_of_error posted
        | ok result after =>
          refine (Run.bind_of_ok posted).trans ?_
          cases result <;> rfl
      · rw [if_neg accepts, if_neg accepts]
        rfl

/-- A message that is not delivered starts nobody. -/
lemma post_of_error {target : Id} {message : Message} {cause : RuntimeError}
    (ran : engine.post target message world = .ok (.error cause) after) :
    world.post target message = (.error cause, after) := by
  rw [post_eq] at ran
  split at ran
  · rename_i posted
    cases ran
    exact posted
  · split at ran
    · cases ran
    · split at ran <;> cases ran

/-- An ask that failed was declined, and then nothing has happened, or it was refused. -/
theorem runPass_runAsk_error
    (failed : engine.runPass actor (activation.runAsk occasion send) world =
      .ok (.error error) after) :
    (activation.Declined occasion send world error ∧ after = world) ∨
      ∃ message, activation.Refused occasion send world message error after := by
  rw [runPass_runAsk] at failed
  cases resolved : activation.outbound occasion send with
  | error unresolved =>
    rw [resolved] at failed
    cases failed
    exact .inl ⟨.unresolved resolved, rfl⟩
  | ok message =>
    rw [resolved] at failed
    dsimp only at failed
    cases read : world.interfaceOf send.target with
    | error unread =>
      rw [read] at failed
      cases failed
      exact .inl ⟨.unreadable resolved read, rfl⟩
    | ok accepted =>
      rw [read] at failed
      dsimp only at failed
      split at failed
      · rename_i accepts
        split at failed
        · cases failed
        · rename_i posted
          cases failed
          exact .inr ⟨message, resolved, ⟨accepted, read, accepts⟩, _, rfl,
            engine.post_of_error posted⟩
        · cases failed
      · rename_i outside
        cases failed
        exact .inl ⟨.outside resolved read (Bool.eq_false_iff.2 outside), rfl⟩

end Engine

/-- A refused ask leaves its request to wait. -/
lemma World.strands_of_refused {activation : Activation} {occasion : Occasion} {send : SendAction}
    {world after : World} {message : Message} {error : ActionError}
    (refused : activation.Refused occasion send world message error after) :
    world.Strands (world.request occasion.actor.id send.target message.type) after := by
  obtain ⟨cause, -, posted⟩ := refused.lost
  exact strands_of_post (congrArg Prod.snd posted)

/-! ## The rest of the pass -/

namespace Engine

variable (engine : Engine) (actor : Id) {activation : Activation} {occasion : Occasion}
variable {send : SendAction} {world after : World} {error : ActionError}

/-- A pass whose action has failed tells those who get replies, and ends.  If all of them run, the
asks stay as the action left them. -/
lemma runPass_failed {action : Action}
    (failed : engine.runPass actor (activation.counted.perform occasion action) world =
      .ok (.error error) after)
    (runs : ∀ target ∈ occasion.replyTargets, after.running.contains target) :
    ∃ last, engine.runPass actor (do
        let step ← activation.runAction occasion action
        occasion.finish step.2) world = .ok () last ∧
      last.pending = after.pending := by
  obtain ⟨⟨⟩, middle, told, storeFrame⟩ :=
    runPass_storeFrames engine (occasion.fail_writesOrTells error) runs
  have self : occasion.actor.id ∈ occasion.replyTargets := by
    unfold Occasion.replyTargets
    split
    · split <;> simp
    · exact List.mem_singleton.2 rfl
  have still : ∀ target, target = occasion.actor.id → middle.running.contains target := by
    rintro target rfl
    rw [storeFrame.running]
    exact runs _ self
  obtain ⟨⟨⟩, last, ended, storeFrame'⟩ := runPass_storeFrames engine
    (occasion.finish_writesOrTells activation.counted) still
  refine ⟨last, ?_, (storeFrame'.pending.trans storeFrame.pending)⟩
  have reported : engine.runPass actor (activation.counted.failed occasion error) after =
      .ok (.stop, activation.counted) middle := by
    rw [Activation.failed, runPass_then, Run.bind_of_ok told]
    rfl
  have ran : engine.runPass actor (activation.runAction occasion action) world =
      .ok (.stop, activation.counted) middle := by
    rw [Activation.runAction, runPass_then]
    exact (Run.bind_of_ok failed).trans reported
  rw [runPass_then, Run.bind_of_ok ran]
  exact ended

/-- **An ask that fails leaves its request behind if the delivery is what failed.**  If the
templates, the record of the target or its interface are the reason, nothing has happened.  But if
the inbox of the target is missing, protected or malformed, the request was entered before and
waits on: until it is settled like any other it is pending, and when its deadline has come the
asker is told of a timeout as well.  The rest of the pass, the reports of the failure and the update
of the context, does not change which requests wait, if those to whom the failure is told run. -/
theorem failed_ask
    (failed : engine.runPass actor (activation.counted.runAsk occasion send) world =
      .ok (.error error) after) :
    ((activation.counted.Declined occasion send world error ∧ after = world) ∨
      ∃ message, activation.counted.Refused occasion send world message error after ∧
        world.Strands (world.request occasion.actor.id send.target message.type) after) ∧
    ((∀ target ∈ occasion.replyTargets, after.running.contains target) →
      ∃ last, engine.runPass actor (do
          let step ← activation.runAction occasion (.ask send)
          occasion.finish step.2) world = .ok () last ∧
        last.pending = after.pending) := by
  refine ⟨?_, engine.runPass_failed actor failed⟩
  refine (engine.runPass_runAsk_error actor failed).imp_right ?_
  rintro ⟨message, refused⟩
  exact ⟨message, refused, World.strands_of_refused refused⟩

end Engine

namespace Sample

/-- A runtime in which an actor was just started; another one accepts an event, but its inbox is
not there. -/
def unlisted : World :=
  match (engine 1).spawn Sample.actor (World.new {} (Store.ofImage ⟨.ofNat, 10⟩
      ⟨Table.ofList
        [(.ofNat 1, .obj [("entries", .arr [])]),
          (.ofNat 2, .empty),
          (Sample.actor, (ActorConfig.toJson ⟨["GO"], .ofNat 1, .ofNat 2,
            .obj [("kind", .str "process")], none, ∅, ∅⟩)),
          (.ofNat 5, (ActorConfig.toJson ⟨["PING"], .ofNat 6, .ofNat 7,
            .obj [("kind", .str "process")], none, ∅, ∅⟩))], ∅⟩)
      ⟨.ofNat, 0⟩ ⟨0, 1000⟩) with
  | .ok _ world | .error _ world => world

/-- A pass of the actor. -/
def passing : Occasion :=
  ⟨⟨Sample.actor, ⟨["GO"], .ofNat 1, .ofNat 2, .obj [("kind", .str "process")], none, ∅, ∅⟩⟩,
    ⟨∅⟩, { name := "GO", payload := .empty }⟩

/-- An ask that the other actor accepts. -/
def pinging : SendAction := ⟨.ofNat 5, .str "PING", .empty⟩

end Sample

/-- An ask whose target has no inbox fails, and still its asker is told of a timeout later. -/
theorem Engine.failed_ask_times_out :
    ∃ error after request last,
      (engine 1).runPass Sample.actor ((Activation.ofContext none).counted.runAsk Sample.passing
        Sample.pinging) Sample.unlisted = .ok (.error error) after ∧
      Sample.unlisted.Strands request after ∧
      .sent Sample.actor (after.timeoutMessage request) ∈
        (after.tellTimeouts request.deadline).journal ∧
      (engine 1).runPass Sample.actor (do
        let step ← (Activation.ofContext none).runAction Sample.passing (.ask Sample.pinging)
        Sample.passing.finish step.2) Sample.unlisted = .ok () last ∧
      last.pending = after.pending := by
  obtain ⟨answer, after, ran, tested⟩ := Run.exists_of_returns
    ((engine 1).runPass Sample.actor ((Activation.ofContext none).counted.runAsk Sample.passing
      Sample.pinging))
    (fun answer after => !answer.isOk && after.running.contains Sample.actor &&
      after.correlations.made != Sample.unlisted.correlations.made) Sample.unlisted
    (by decide +kernel)
  simp only [Bool.and_eq_true, Bool.not_eq_true', bne_iff_ne] at tested
  obtain ⟨⟨fails, runs⟩, entered⟩ := tested
  generalize Sample.unlisted = world at ran entered ⊢
  cases answer with
  | ok => cases fails
  | error error =>
    obtain ⟨left, rest⟩ := Engine.failed_ask (engine 1) Sample.actor ran
    have told : ∀ target ∈ Sample.passing.replyTargets, after.running.contains target := by
      intro target mem
      rw [List.mem_singleton.1 mem]
      exact runs
    obtain ⟨last, ended, same⟩ := rest told
    -- a correlation was handed out, so the ask was not declined
    rcases left with ⟨-, rfl⟩ | ⟨message, -, strands⟩
    · exact absurd rfl entered
    · exact ⟨error, after, _, last, ran, strands, strands.told _ (Int.le_refl _), ended, same⟩

end Troupe
