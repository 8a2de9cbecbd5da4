import Troupe.Proofs.World.Screening
import Troupe.Proofs.World.Waiting

/-!
# Rounds of a pump

A pump drains the actors in the queue one after the other, each in a round of its own.  In a round
in which its actor receives an event, the behavior runs its pass, and then the message is marked
(`Engine.Reception`).

## Main results

* `Engine.pump_rounds`: a pump that returns has come to its end by rounds, from any state between
  two of them;
* `Engine.Reception.bySteps`: how a round goes in which an event is received;
* `World.Lies.rounds`: a message that lies in an inbox is taken in some round, or it still lies
  there.
-/

namespace Troupe

open Relation World

namespace Engine

variable {engine : Engine} {world before middle after now last : World} {actor : Id}

/-- The next actor in the queue is drained. -/
def Round (engine : Engine) (before after : World) : Prop :=
  ∃ actor ready did, before.ready.pop? = some (actor, ready) ∧
    engine.drain actor { before with ready } = .ok did after

/-- Any number of rounds. -/
abbrev Rounds (engine : Engine) : World → World → Prop := ReflTransGen engine.Round

lemma Round.bySteps (bySteps : engine.BySteps) (round : engine.Round before after) :
    Steps before after ∧ before.Nests after := by
  obtain ⟨actor, ready, did, next, ran⟩ := round
  have ends := drain_bySteps bySteps next
  rw [ran] at ends
  exact ends

lemma Rounds.bySteps (bySteps : engine.BySteps) (rounds : engine.Rounds before after) :
    Steps before after ∧ before.Nests after := by
  induction rounds with
  | refl => exact ⟨.refl, .refl _⟩
  | tail _ round ih =>
    obtain ⟨steps, nests⟩ := Round.bySteps bySteps round
    exact ⟨ih.1.trans steps, ih.2.trans nests⟩

/-- What is left to be drained after a round is what the rest of the pump drains. -/
lemma Round.rest (round : engine.Round world now) {rounds handled total : Nat}
    (ran : engine.drainAll rounds handled world = .ok total last) :
    ∃ rounds handled, engine.drainAll rounds handled now = .ok total last := by
  obtain ⟨actor, ready, did, next, drained⟩ := round
  cases rounds with
  | zero => cases ran
  | succ rounds =>
    rcases drainAll_succ_ok ran with ⟨none, -⟩ | ⟨_, _, _, _, next', drained', ran⟩
    · cases none.symm.trans next
    · cases next.symm.trans next'
      cases drained.symm.trans drained'
      exact ⟨rounds, _, ran⟩

lemma Rounds.rest (sofar : engine.Rounds world now) {rounds handled total : Nat}
    (ran : engine.drainAll rounds handled world = .ok total last) :
    ∃ rounds handled, engine.drainAll rounds handled now = .ok total last := by
  induction sofar with
  | refl => exact ⟨rounds, handled, ran⟩
  | tail _ round ih =>
    obtain ⟨rounds, handled, ran⟩ := ih
    exact Round.rest round ran

/-- Draining all that is queued goes by rounds. -/
lemma drainAll_rounds {rounds handled total : Nat}
    (ran : engine.drainAll rounds handled world = .ok total last) : engine.Rounds world last := by
  induction rounds generalizing handled world with
  | zero => cases ran
  | succ rounds ih =>
    rcases drainAll_succ_ok ran with ⟨-, -, rfl⟩ | ⟨actor, ready, did, middle, next, drained, ran⟩
    · exact .refl
    · exact .head ⟨actor, ready, did, next, drained⟩ (ih ran)

/-- **A pump goes by rounds**: from any state between two of them it comes to its end, where nobody
is queued. -/
theorem pump_rounds {depth handled : Nat} {start : World} (outermost : start.pumping = false)
    (ran : (Troupe.engine (depth + 1)).pump start = .ok handled last)
    (sofar : (Troupe.engine depth).Rounds { start with pumping := true } now) :
    (Troupe.engine depth).Rounds now { last with pumping := true } ∧ last.ready.order = [] := by
  change pumpAt (depth + 1) start = .ok handled last at ran
  rw [pumpAt, pumpWith, if_neg (by simp [outermost])] at ran
  split at ran
  · rename_i total ended drained
    cases ran
    obtain ⟨rounds, count, rest⟩ := sofar.rest drained
    have on : ended.pumping = true :=
      ((drainAll_bySteps (engine_bySteps depth) _ _ _).ok drained).2.pumping
    have served : ended.ready.order = [] := drainAll_serves _ _ drained
    refine ⟨?_, served⟩
    have all : (Troupe.engine depth).Rounds now ended := drainAll_rounds rest
    rwa [show ended = { ended with pumping := true } by rw [← on]] at all
  · cases ran

/-! ## Rounds in which an entry is handled -/

/-- A round in which an actor takes an entry of its inbox. -/
structure Taking (engine : Engine) (before after : World) where
  /-- The actor, -/
  actor : Id
  /-- those who are queued behind it, -/
  ready : ReadyQueue
  /-- and what is due. -/
  due : Due
  /-- The actor is the next one in the queue. -/
  next : before.ready.pop? = some (actor, ready)
  /-- An entry is due. -/
  waits : ({ before with ready } : World).due? actor = some due
  /-- The round returns. -/
  ran : engine.drain actor { before with ready } = .ok true after

/-- The round in which an actor takes a message. -/
lemma Round.taking (keeps : engine.Keeps Nested Nested) (pumping : before.pumping = true)
    (round : engine.Round before after) {home message : Id} {position : Nat} {entry : Entry}
    (new : before.Newly after (.taken actor home position message entry)) :
    ∃ turn : engine.Taking before after, turn.actor = actor ∧ turn.due.message = message := by
  obtain ⟨other, ready, did, next, ran⟩ := round
  have drained : engine.Drained other { before with ready } did after :=
    drain_drained keeps pumping ran
  cases drained with
  | nothing none =>
    obtain ⟨-, skips, journal, passed⟩ := handleNext_nothing none
    obtain ⟨_, _, _, _, eq⟩ := passed _ ((newly_iff skips journal).1 new)
    cases eq
  | entry handling rendered encloses =>
    obtain ⟨skips, inner, marks, handled, passed, dealt, marked⟩ := handling.journal
    obtain ⟨hook, journal, nested⟩ := encloses.journal
    rw [handled] at journal
    have mem := (newly_iff (hook ++ (marks ++ inner ++ .taken other handling.running.config.inbox
      handling.position handling.message handling.entry :: skips)) (by simpa using journal)).1 new
    -- of all that is noted in the round only one note is of an entry that is taken
    have same : Note.taken actor home position message entry =
        .taken other handling.running.config.inbox handling.position handling.message
          handling.entry := by
      simp only [List.mem_append, List.mem_cons] at mem
      rcases mem with late | (mark | early) | same | skip
      · cases nested.not_ofEntry _ late
      · rcases marked with rfl | rfl <;> simp at mark
      · cases dealt.not_ofEntry _ early
      · exact same
      · obtain ⟨_, _, _, _, eq⟩ := passed _ skip
        cases eq
    cases same
    refine ⟨⟨actor, ready, ⟨handling.running, Inbox.entries handling.inbox, handling.position,
      handling.message, handling.entry⟩, next, ?_, ran⟩, rfl, rfl⟩
    exact due?_of_picked handling.found handling.idle handling.read handling.picked

namespace Taking

/-- What was taken can be read. -/
lemma stored (turn : engine.Taking before after) :
    (before.store.read turn.due.message).bind Entry.ofJson? = some turn.due.entry :=
  (stored_of_due turn.waits).2.1

/-- Taking an entry is a round. -/
lemma toRound (turn : engine.Taking before after) : engine.Round before after :=
  ⟨turn.actor, turn.ready, true, turn.next, turn.ran⟩

end Taking

/-- A round in which the behavior of an actor receives an event. -/
structure Reception (engine : Engine) (before after : World) extends
    Taking engine before after where
  /-- The event. -/
  event : Event
  /-- It is what is due. -/
  received : ({ before with ready } : World).fate actor due = .received event

namespace Reception

variable (turn : engine.Reception before after)

/-- What the pass of the behavior works for. -/
def occasion : Occasion :=
  ⟨⟨turn.actor, turn.due.running.config⟩, turn.due.running.behavior.named, turn.event⟩

/-- The pass of the behavior. -/
def pass : Pass Dispatch :=
  turn.due.running.behavior.send ⟨turn.actor, turn.due.running.config⟩ turn.due.running.memory
    turn.event

/-- The state in which the actor is busy with the entry. -/
def busy : World := turn.due.busy turn.actor { before with ready := turn.ready }

/-- The state in which the pass begins. -/
def start : World := (turn.busy.acceptReply turn.actor turn.due.message turn.due.entry).2

/-- What a round comes to whose pass has come to an end: the message is marked, the actor is queued
again if more entries are listed, and it is rendered again if need be. -/
def Concludes (dispatch : Dispatch) (worked : World) : Prop :=
  if dispatch.rerender then
    engine.rerender turn.actor (worked.afterTurn turn.actor turn.due.message
      (turn.due.position + 1 < turn.due.listed.length)) = .ok () after
  else after = worked.afterTurn turn.actor turn.due.message
    (turn.due.position + 1 < turn.due.listed.length)

/-- The pass of the behavior returns, and then the round comes to its end. -/
lemma exists_worked : ∃ dispatch worked,
    engine.runPass turn.actor turn.pass turn.start = .ok dispatch worked ∧
      turn.Concludes dispatch worked := by
  obtain ⟨answer, middle, handled, rest⟩ := Run.ok_of_bind turn.ran
  rw [handleNext_eq_deal engine turn.waits, turn.received] at handled
  change turn.due.ends turn.actor ((engine.runPass turn.actor turn.pass >>= fun dispatch =>
    (pure dispatch.rerender : Run Bool)) turn.start) = _ at handled
  cases ran : engine.runPass turn.actor turn.pass turn.start with
  | error halt last =>
    rw [Run.bind_of_error ran] at handled
    cases handled
  | ok dispatch worked =>
    rw [Run.bind_of_ok ran] at handled
    cases handled
    refine ⟨dispatch, worked, rfl, ?_⟩
    unfold Concludes
    dsimp only at rest
    split at rest <;> rename_i rerender
    · obtain ⟨⟨⟩, last, rendered, rest⟩ := Run.ok_of_bind rest
      cases rest
      rw [if_pos rerender]
      exact rendered
    · rw [if_neg rerender]
      exact (EStateM.Result.ok.inj rest).2.symm

/-- What is due is listed in the inbox of the actor. -/
lemma listed_eq : Inbox.listed before.store turn.due.running.config.inbox = turn.due.listed := by
  obtain ⟨-, -, ⟨inbox, read, listed⟩, -⟩ := due?_eq_some.1 turn.waits
  rw [Inbox.listed, show before.store.read _ = some inbox from read, listed]
  rfl

/-- The actor is busy with the entry before its pass begins. -/
lemma handles : turn.busy.Handles
    { turn.due.running with
      cursor := turn.due.position + 1
      activity := .handling turn.due.listed.length }
    turn.actor turn.due.message turn.due.entry := by
  obtain ⟨found, -, -, picked⟩ := due?_eq_some.1 turn.waits
  exact pick_handles turn.due.listed.length found picked

lemma busy_nests_start : turn.busy.Nests turn.start := acceptReply_nests _ _ _ _

lemma busy_config : turn.busy.config = before.config := by rw [busy, turn.due.busy_frame]

lemma busy_schemas : turn.busy.schemas = before.schemas := by rw [busy, turn.due.busy_frame]

/-- The actor turns to the entry. -/
lemma step_busy : Step before turn.busy := by
  obtain ⟨found, idle, -, picked⟩ := due?_eq_some.1 turn.waits
  have take := Step.take turn.next found idle (turn.listed_eq ▸ picked)
  rw [turn.listed_eq] at take
  exact take

/-- The answer, if it is one, is accepted. -/
lemma step_start : Step turn.busy turn.start := by
  -- the fate of the entry tells that it is valid, and no mutation
  obtain ⟨payload, valid, event, -⟩ := fate_eq_received turn.received
  refine .accept turn.handles ⟨payload, ?_⟩ ?_
  · rw [busy_config, busy_schemas]
    exact valid
  · rw [busy_config]
    exact event

/-- The steps before the pass. -/
lemma steps_start : Steps before turn.start := .head turn.step_busy (.single turn.step_start)

/-- When the pass has come to its end, the round does so by steps. -/
lemma steps_after (bySteps : engine.BySteps) {dispatch : Dispatch} {worked : World}
    (nests : turn.start.Nests worked) (concludes : turn.Concludes dispatch worked) :
    Steps worked after := by
  have nests := turn.busy_nests_start.trans nests
  obtain ⟨current, handles⟩ := turn.handles.nests nests
  obtain ⟨running, found, kept⟩ := nests.kept turn.actor _ turn.handles.found
  have marked := worked.mark_storeFrame turn.due.message
  have finish := Step.finish (marked.running ▸ found) kept.activity
  rw [kept.cursor (by simp)] at finish
  have steps : Steps worked (worked.afterTurn turn.actor turn.due.message
      (turn.due.position + 1 < turn.due.listed.length)) :=
    .tail (.single (.mark handles)) finish
  unfold Concludes at concludes
  split at concludes
  · exact steps.trans ((rerender_bySteps bySteps _ _).ok concludes).1
  · exact concludes ▸ steps

lemma runs_start : turn.start.running.contains turn.actor :=
  turn.busy_nests_start.contains (Option.isSome_iff_exists.2 ⟨_, turn.handles.found⟩)

/-- The rest of the round, from when the answer is accepted. -/
lemma steps_rest (bySteps : engine.BySteps) : Steps turn.start after := by
  obtain ⟨dispatch, worked, ran, concludes⟩ := turn.exists_worked
  have pass := runPass_bySteps bySteps turn.pass (turn.due.running.behavior.send_asksAs _ _ _)
    turn.start turn.runs_start
  obtain ⟨steps, nests⟩ := pass.ok ran
  exact steps.trans (turn.steps_after bySteps nests concludes)

end Reception

end Engine

variable {engine : Engine} {before after : World} {actor inbox message : Id} {entry : Entry}
variable {place : Nat}

/-- **A message that lies in an inbox is taken in some round, or it still lies there.** -/
theorem World.Lies.rounds (bySteps : engine.BySteps) (keeps : engine.Keeps Nested Nested)
    (rounds : engine.Rounds before after) (pumping : before.pumping = true)
    (lies : before.Lies actor inbox message entry place)
    (undisturbed : before.Undisturbed after actor inbox message)
    (untaken : before.Untaken message) :
    after.Lies actor inbox message entry place ∨
      ∃ (start stop : World) (turn : engine.Taking start stop), engine.Rounds before start ∧
        engine.Rounds stop after ∧ turn.actor = actor ∧ turn.due.message = message ∧
        turn.due.entry = entry := by
  induction rounds using ReflTransGen.head_induction_on with
  | refl => exact .inl lies
  | @head before middle round rest ih =>
    obtain ⟨steps, nests⟩ := Engine.Round.bySteps bySteps round
    obtain ⟨later, still⟩ := Engine.Rounds.bySteps bySteps rest
    have early := Steps.records steps
    have late := Steps.records later
    rcases untaken.or_newly early.journal with untaken | ⟨other, home, position, found, new⟩
    · have there := lies.steps steps (undisturbed.between (.refl _) late) untaken
      rcases ih (nests.pumping.trans pumping) there (undisturbed.between early (.refl _)) untaken
        with lies | ⟨start, stop, turn, sofar, rest, found⟩
      · exact .inl lies
      · exact .inr ⟨start, stop, turn, .head round sofar, rest, found⟩
    · obtain ⟨turn, who, which⟩ := Engine.Round.taking keeps pumping round new
      have own := undisturbed.taken other home position found (new.right late.journal)
      refine .inr ⟨before, middle, turn, .refl, rest, who.trans own, which, ?_⟩
      have stored := turn.stored
      rw [which, lies.stored] at stored
      exact (Option.some.inj stored).symm

end Troupe
