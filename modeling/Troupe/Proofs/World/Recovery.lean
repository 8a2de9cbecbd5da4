import Troupe.Proofs.World.Wakeups

/-!
# Recovery after a panic

A tool that breaks off takes every pass and every pump with it that is under way.  Their actors
become idle and the pump flag is cleared, but the rest of each of them is not made up for: what the
end of a pass would have queued stays where it is.  So the wakeups that are lost are those of the
actors whose passes were under way, if entries wait for them and none of these came meanwhile; and
the runtime goes on for all others.

## Main results

* `World.AwakeAmong.unwinds`: which wakeups are lost when a call is broken off, and which are not;
* `Session.recovers`: what a panic leaves behind, and what the next pump makes of the rest.
-/

namespace Troupe

open Relation

namespace World

variable {world before broke after : World} {actor : Id} {among : Id → Prop}

/-- The wakeup of an actor that is not busy is not lost: if entries wait for it, it is queued. -/
def Heeds (world : World) (actor : Id) : Prop :=
  ∀ running, world.running.find? actor = some running → world.Waits running →
    actor ∈ world.ready.order

/-- If calls are broken off here, an actor is left behind: its pass is under way, entries wait for
it, and only the end of the pass would queue it.  For none has been listed since it took the one
that it handles, or else it would be queued. -/
def LeavesBehind (broke : World) (actor : Id) : Prop :=
  ∃ running, broke.running.find? actor = some running ∧
    (running.activity = .starting ∨ running.activity =
      .handling (Inbox.listed broke.store running.config.inbox).length) ∧
    broke.Waits running ∧ actor ∉ broke.ready.order

/-- Whether entries wait for an actor does not depend on what it is doing. -/
lemma Unwinds.waits (unwinds : broke.Unwinds after) {running : Running} {activity : Activity} :
    after.Waits { running with activity } ↔ broke.Waits running := by
  rw [Waits, Waits, unwinds.store]

namespace AwakeAmong

/-- When all is unwound, the wakeups are lost of those that are left behind, and no others. -/
theorem unwinds (awake : AwakeAmong among broke) (unwinds : broke.Unwinds after)
    (idle : after.Idle) :
    AwakeAmong (fun actor => among actor ∧ ¬ broke.LeavesBehind actor) after where
  token_lt := unwinds.store ▸ awake.token_lt
  tokens := unwinds.store ▸ awake.tokens
  subscribed actor running found := by
    obtain ⟨old, there, eq⟩ := unwinds.exists_old found
    rw [unwinds.store, eq]
    exact awake.subscribed actor old there
  calls := unwinds.store ▸ awake.calls
  attended actor running mem found := by
    obtain ⟨old, there, eq⟩ := unwinds.exists_old found
    unfold Attended
    rw [idle actor running found]
    intro waits
    rw [eq, unwinds.waits] at waits
    rw [unwinds.ready]
    have attended := awake.attended actor old mem.1 there
    unfold Attended at attended
    -- if its pass was under way and it is not queued, it would have been left behind
    by_contra unqueued
    refine mem.2 ⟨old, there, ?_, waits, unqueued⟩
    cases activity : old.activity with
    | idle =>
      rw [activity] at attended
      exact absurd (attended waits) unqueued
    | starting => exact .inl rfl
    | handling listed =>
      rw [activity] at attended
      exact .inr (by rw [attended.resolve_left unqueued])

/-- Actors watch their inboxes, whatever breaks off. -/
lemma stepOrBreak (stepOrBreak : StepOrBreak before after)
    (awake : AwakeAmong (fun _ => False) before) : AwakeAmong (fun _ => False) after := by
  cases stepOrBreak with
  | step step => exact awake.step step
  | @breakOff actor running found busy =>
    refine awake.of_one actor (updateRunning_store _ _ _) (fun other _ queued => ?_)
      (fun other ne => ?_) fun new there => ?_
    · rwa [turnTo, updateRunning_ready]
    · rw [turnTo, find?_updateRunning, if_neg (Ne.symm ne)]
    · obtain ⟨old, there, eq⟩ := find?_updateRunning_some there
      rw [if_pos rfl] at eq
      exact ⟨old, there, by rw [eq], by rw [eq], False.elim⟩
  | @jam actor ready running next found busy =>
    exact awake.of_one actor rfl (queued_of_pop next) (fun _ _ => rfl)
      fun new there => ⟨new, there, rfl, rfl, False.elim⟩

lemma moves (moves : Moves before after) (awake : AwakeAmong (fun _ => False) before) :
    AwakeAmong (fun _ => False) after := by
  induction moves with
  | refl => exact awake
  | tail _ move ih => exact move.elim ih.stepOrBreak ih.order

/-- Where no actor is busy, those whose wakeups are not lost are all that are heeded. -/
lemma of_idle (awake : AwakeAmong (fun _ => False) world) (idle : world.Idle) :
    AwakeAmong world.Heeds world where
  toWatchful := awake.toWatchful
  calls := awake.calls
  attended actor running heeds found := by
    unfold Attended
    rw [idle actor running found]
    exact heeds running found

/-- An actor whose wakeup is not lost is heeded. -/
lemma heeds (awake : AwakeAmong among world) (idle : world.Idle) (mem : among actor) :
    world.Heeds actor := by
  intro running found waits
  have attended := awake.attended actor running mem found
  unfold Attended at attended
  rw [idle actor running found] at attended
  exact attended waits

/-- A pump that is not nested in another leaves no entry waiting for an actor that is heeded. -/
lemma pump_serves {depth handled : Nat} {running : Running} (awake : AwakeAmong among world)
    (idle : world.Idle) (outermost : world.pumping = false)
    (ran : (engine depth).pump world = .ok handled after) (mem : among actor)
    (found : after.running.find? actor = some running) : ¬ after.Waits running := by
  obtain ⟨steps, nests⟩ := ((engine_bySteps depth).pump world).ok ran
  exact (awake.calm steps.calm).of_served mem (Engine.pump_serves depth outermost ran) found
    (nests.idle idle actor running found)

end AwakeAmong

/-- An actor that is left behind is not heeded when all is unwound. -/
lemma LeavesBehind.not_heeds (behind : broke.LeavesBehind actor) (unwinds : broke.Unwinds after) :
    ¬ after.Heeds actor := by
  obtain ⟨old, there, -, waits, unqueued⟩ := behind
  obtain ⟨new, found, eq⟩ := unwinds.exists_new there
  intro heeds
  rw [← unwinds.ready] at unqueued
  exact unqueued (heeds new found (by rwa [eq, unwinds.waits]))

end World

open World

/-- Actors watch their inboxes in every state of a session, none is busy, and no pump is under
way. -/
lemma Session.watchful {config : Config} {supply : Supply} {image : StoreImage}
    {correlations : Supply} {clock : Clock} {world : World}
    (session : Session (World.new config (Store.ofImage supply image) correlations clock) world) :
    AwakeAmong (fun _ => False) world ∧ world.AskersRun ∧ world.Idle ∧ world.pumping = false := by
  have askers := AskersRun.first config (Store.ofImage supply image) correlations clock
  have begins : (World.new config (Store.ofImage supply image) correlations clock).Awake :=
    awake_of_stopped rfl rfl rfl
  obtain ⟨moves, leaves⟩ := session.moves askers
  exact ⟨(begins.toAmong _).moves moves, askers.moves moves,
    leaves.idle fun _ _ found => by simp [World.new] at found, leaves.pumping rfl⟩

/-- **What a panic leaves behind.**  When a tool has broken a command off, no pump is under way, and
of the wakeups that were not lost before exactly those are lost of the actors that were left behind
where it broke off: their passes were under way, and nothing was listed for them meanwhile.  Every
other actor for which entries wait is queued, and the next pump handles all of them. -/
theorem Session.recovers {config : Config} {supply : Supply} {image : StoreImage}
    {correlations : Supply} {clock : Clock} {world after : World}
    (session : Session (World.new config (Store.ofImage supply image) correlations clock) world)
    {fuel : Nat} {command : Command} (panicked : command.run fuel world = .error .panic after) :
    after.pumping = false ∧ ∃ broke, Calm world broke ∧ broke.Unwinds after ∧
      ∀ actor, world.Heeds actor →
        (after.Heeds actor ↔ ¬ broke.LeavesBehind actor) ∧
        (after.Heeds actor → ∀ depth handled last running,
          (engine depth).pump after = .ok handled last →
          last.running.find? actor = some running → ¬ last.Waits running) := by
  obtain ⟨watchful, askers, idle, still⟩ := session.watchful
  have closes := run_closes askers fuel command
  rw [panicked] at closes
  obtain ⟨-, leaves, breaks⟩ := closes
  obtain ⟨broke, calm, unwinds⟩ := breaks (by decide)
  have idleAfter := leaves.idle idle
  have awake := (((watchful.of_idle idle).calm calm).unwinds unwinds idleAfter)
  have outermost := leaves.pumping still
  refine ⟨outermost, broke, calm, unwinds, fun actor heeds => ⟨⟨fun heeded behind => ?_,
    fun behind => awake.heeds idleAfter ⟨heeds, behind⟩⟩, fun heeded depth handled last running ran
    found => ?_⟩⟩
  · exact behind.not_heeds unwinds heeded
  · have behind : ¬ broke.LeavesBehind actor := fun behind => behind.not_heeds unwinds heeded
    exact awake.pump_serves idleAfter outermost ran ⟨heeds, behind⟩ found

namespace Sample

/-- Another actor. -/
def other : Id := .ofNat 8

/-- The record of a process that runs a tool when it is told to; it accepts two events. -/
def fused (inbox context : Nat) : Json :=
  ActorConfig.toJson
    ⟨["BOOM", "GO"], .ofNat inbox, .ofNat context,
      .record [("kind", .str "process"), ("handlers", .record
        [("BOOM", .arr [.record [("function", .empty)]]), ("GO", .arr [])])],
      some "bang", ∅, Table.ofList [("BOOM", .bool true), ("GO", .bool true)]⟩

/-- A runtime with two such actors: one is told to run its tool and then something else, the other
one only something else. -/
def charged : World :=
  World.new {} (Store.ofImage ⟨.ofNat, 10⟩ ⟨Table.ofList
    [(.ofNat 1, .obj [("entries", .arr [.id (.ofNat 4), .id (.ofNat 5)])]),
      (.ofNat 2, .empty), (actor, fused 1 2),
      (.ofNat 4, (Entry.pending actor { type := "BOOM", payload := .empty }).toJson),
      (.ofNat 5, (Entry.pending actor { type := "GO", payload := .empty }).toJson),
      (.ofNat 6, .obj [("entries", .arr [.id (.ofNat 9)])]),
      (.ofNat 7, .empty), (other, fused 6 7),
      (.ofNat 9, (Entry.pending other { type := "GO", payload := .empty }).toJson)], ∅⟩)
    ⟨.ofNat, 0⟩ ⟨0, 1000⟩

/-- Whether entries wait for an actor. -/
def waits (actor : Id) (world : World) : Bool :=
  (world.running.find? actor).any fun running => world.Waits running

/-- Whether entries wait for both actors, of which only the other one is queued; and whether the
next pump handles its entry alone. -/
def struck (world : World) : Bool :=
  waits actor world && waits other world && world.ready.order == [other] &&
    (engine 2).pump.returns
      (fun handled last => handled == 1 && waits actor last && last.running.contains other) world

end Sample

/-- Of two actors with an entry behind, the one whose tool broke off is left behind.  The next pump
handles the entry of the other one, and not its own. -/
theorem Session.leaves_one_behind :
    ∃ world after last, Session Sample.charged world ∧
      Command.pump.run 2 world = .error .panic after ∧
      world.Heeds Sample.actor ∧ ¬ after.Heeds Sample.actor ∧ after.Heeds Sample.other ∧
      (∃ broke : World, broke.Unwinds after ∧ broke.LeavesBehind Sample.actor) ∧
      (engine 2).pump after = .ok 1 last ∧ Sample.waits Sample.actor last ∧
      ∀ running, last.running.find? Sample.other = some running → ¬ last.Waits running := by
  have begun : Session Sample.charged Sample.charged := .first
  obtain ⟨world, session, panicked⟩ := Session.exists_of_allReturn 2
    [.setTools (ToolRegistry.register {} Sample.bang), .start Sample.actor, .start Sample.other]
    (fun world => world.ready.order == [Sample.actor, Sample.other] &&
      (Command.pump.run 2).panics Sample.struck world) begun (by decide +kernel)
  simp only [Bool.and_eq_true, beq_iff_eq] at panicked
  obtain ⟨queued, panicked⟩ := panicked
  obtain ⟨after, panicked, struck⟩ := Run.exists_of_panics _ _ _ panicked
  simp only [Sample.struck, Bool.and_eq_true, beq_iff_eq] at struck
  obtain ⟨⟨⟨waits, waits'⟩, ready⟩, pumped⟩ := struck
  obtain ⟨handled, last, pump, tested⟩ := Run.exists_of_returns _ _ _ pumped
  simp only [Bool.and_eq_true, beq_iff_eq] at tested
  obtain ⟨⟨rfl, left⟩, -⟩ := tested
  obtain ⟨-, broke, -, unwinds, recovers⟩ := session.recovers panicked
  have heeds : world.Heeds Sample.actor := fun _ _ _ => by simp [queued]
  have heeds' : world.Heeds Sample.other := fun _ _ _ => by simp [queued]
  have unheeded : ¬ after.Heeds Sample.actor := by
    obtain ⟨running, found, waits⟩ := (Option.any_eq_true _ _).1 waits
    intro heeded
    have mem := heeded running found (of_decide_eq_true waits)
    rw [ready] at mem
    exact absurd mem (by decide)
  have heeded : after.Heeds Sample.other := fun _ _ _ => by simp [ready]
  refine ⟨world, after, last, session, panicked, heeds, unheeded, heeded,
    ⟨broke, unwinds, ?_⟩, pump, left, fun running found => ?_⟩
  · exact not_not.1 fun behind => unheeded ((recovers Sample.actor heeds).1.2 behind)
  · exact (recovers Sample.other heeds').2 heeded 2 1 last running pump found

end Troupe
