import Mathlib.Data.List.Nodup
import Troupe.Proofs.World.Moves

/-!
# No lost wakeup

A running actor with entries behind its cursor is queued: nothing that is listed in an inbox is
forgotten.  What wakes an actor is spread over the runtime: its watch on the inbox, the
scheduling at its start and the rescheduling after an entry.  The invariant `World.Awake` says
for every activity of an actor which of them answers for it.

## Main results

* `World.AwakeAmong.step`, `World.Awake.calm`: steps and orders preserve the invariant, for any
  actors of which no wakeup has been lost;
* `Quiet.no_lost_wakeup`: wherever no pass is under way, an actor with entries behind its
  cursor is queued, and after a pump no actor has any.
-/

namespace Troupe

namespace World

variable {world before after : World} {actor : Id} {running : Running} {among : Id → Prop}

/-- Entries wait for an actor: its inbox lists more than it has passed. -/
def Waits (world : World) (running : Running) : Prop :=
  running.cursor < (Inbox.listed world.store running.config.inbox).length

instance : Decidable (world.Waits running) := inferInstanceAs (Decidable (_ < _))

/-- The wakeup of an actor is taken care of.  An idle actor for which entries wait is queued.
One that is starting will be queued when it has started.  One that handles an entry will be
queued if more entries were listed when it began; should the list change, its watch queues it
at once. -/
def Attended (world : World) (actor : Id) (running : Running) : Prop :=
  match running.activity with
  | .idle => world.Waits running → actor ∈ world.ready.order
  | .starting => True
  | .handling listed => actor ∈ world.ready.order ∨
      (Inbox.listed world.store running.config.inbox).length = listed

/-- Each running actor watches its inbox, and no watch is taken off in place of another. -/
structure Watchful (world : World) : Prop where
  /-- Tokens given out are below the next one, -/
  token_lt : ∀ watch ∈ world.store.watches, watch.token < world.store.nextToken
  /-- no two are the same, -/
  tokens : (world.store.watches.map Watch.token).Nodup
  /-- and a running actor's token is that of its watch. -/
  subscribed : ∀ actor running, world.running.find? actor = some running →
    ⟨running.subscription, running.config.inbox, .actor actor⟩ ∈ world.store.watches

/-- No wakeup is lost. -/
structure Awake (world : World) : Prop extends Watchful world where
  /-- All calls have been made. -/
  calls : world.store.calls = []
  /-- The wakeup of every running actor is taken care of. -/
  attended : ∀ actor running, world.running.find? actor = some running →
    world.Attended actor running

/-- No wakeup of some of the actors is lost; of the others some may have been, by calls that broke
off. -/
structure AwakeAmong (among : Id → Prop) (world : World) : Prop extends Watchful world where
  /-- All calls have been made. -/
  calls : world.store.calls = []
  /-- The wakeup of each of the actors is taken care of, if it is running. -/
  attended : ∀ actor running, among actor → world.running.find? actor = some running →
    world.Attended actor running

lemma Awake.toAmong (awake : world.Awake) (among : Id → Prop) : AwakeAmong among world :=
  ⟨awake.toWatchful, awake.calls, fun actor running _ found => awake.attended actor running found⟩

lemma AwakeAmong.awake (awake : AwakeAmong (fun _ => True) world) : world.Awake :=
  ⟨awake.toWatchful, awake.calls, fun actor running found =>
    awake.attended actor running trivial found⟩

/-- A runtime in which nothing runs. -/
lemma awake_of_stopped (running : world.running = ∅) (watches : world.store.watches = [])
    (calls : world.store.calls = []) : world.Awake where
  token_lt := by simp [watches]
  tokens := by simp [watches]
  subscribed actor running' found := by simp [running] at found
  calls := calls
  attended actor running' found := by simp [running] at found

lemma listed_congr {inbox : Id} (read : after.store.read inbox = before.store.read inbox) :
    Inbox.listed after.store inbox = Inbox.listed before.store inbox := by
  rw [Inbox.listed, Inbox.listed, read]

namespace Attended

/-- As long as its inbox stays, an actor stays attended. -/
lemma mono (attended : before.Attended actor running)
    (listed : Inbox.listed after.store running.config.inbox =
      Inbox.listed before.store running.config.inbox)
    (queued : actor ∈ before.ready.order → actor ∈ after.ready.order) :
    after.Attended actor running := by
  unfold Attended Waits at *
  rw [listed]
  cases activity : running.activity with
  | idle => simp only [activity] at attended ⊢; exact fun waits => queued (attended waits)
  | starting => trivial
  | handling count => simp only [activity] at attended ⊢; exact attended.imp_left queued

/-- An actor that is queued is attended. -/
lemma of_queued (queued : actor ∈ world.ready.order) : world.Attended actor running := by
  unfold Attended
  cases running.activity with
  | idle => exact fun _ => queued
  | starting => trivial
  | handling => exact .inl queued

end Attended

lemma Watchful.mem_listeners (watchful : world.Watchful)
    (found : world.running.find? actor = some running) :
    Listener.actor actor ∈ world.store.listeners running.config.inbox :=
  List.mem_map.2 ⟨_, List.mem_filter.2 ⟨watchful.subscribed actor running found, by simp⟩, rfl⟩

/-- What is listed in an inbox changes only by a write that queues the actor. -/
lemma AwakeAmong.storeFrame (storeFrame : before.StoreFrame after)
    (awake : AwakeAmong among before) : AwakeAmong among after where
  token_lt := by rw [storeFrame.store.watches, storeFrame.store.nextToken]; exact awake.token_lt
  tokens := by rw [storeFrame.store.watches]; exact awake.tokens
  subscribed := by rw [storeFrame.store.watches, storeFrame.running]; exact awake.subscribed
  calls := storeFrame.calls awake.calls
  attended actor running mem found := by
    rw [storeFrame.running] at found
    by_cases same : after.store.writeCount running.config.inbox =
        before.store.writeCount running.config.inbox
    · exact (awake.attended actor running mem found).mono
        (listed_congr (storeFrame.store.read_eq _ same)) fun queued => storeFrame.queued.subset queued
    · exact .of_queued (storeFrame.woken _ same actor (awake.mem_listeners found))

namespace AwakeAmong

/-- Nothing changes that matters. -/
lemma of_eq (awake : AwakeAmong among before) (store : after.store = before.store)
    (running : after.running = before.running) (ready : after.ready = before.ready) :
    AwakeAmong among after where
  token_lt := store ▸ awake.token_lt
  tokens := store ▸ awake.tokens
  subscribed := by rw [store, running]; exact awake.subscribed
  calls := store ▸ awake.calls
  attended actor running' mem found :=
    (awake.attended actor running' mem (running ▸ found)).mono (by rw [store]) fun queued => by
      rwa [ready]

/-- What is known of one actor changes, but neither its inbox nor its watch; others stay
queued. -/
lemma of_one (awake : AwakeAmong among before) (actor : Id) (store : after.store = before.store)
    (ready : ∀ other, other ≠ actor → other ∈ before.ready.order → other ∈ after.ready.order)
    (others : ∀ other, other ≠ actor →
      after.running.find? other = before.running.find? other)
    (own : ∀ new, after.running.find? actor = some new → ∃ old,
      before.running.find? actor = some old ∧ new.config = old.config ∧
      new.subscription = old.subscription ∧ (among actor → after.Attended actor new)) :
    AwakeAmong among after where
  token_lt := store ▸ awake.token_lt
  tokens := store ▸ awake.tokens
  subscribed other running found := by
    rw [store]
    by_cases same : other = actor
    · subst same
      obtain ⟨old, there, config, subscription, -⟩ := own running found
      rw [config, subscription]
      exact awake.subscribed other old there
    · exact awake.subscribed other running (others other same ▸ found)
  calls := store ▸ awake.calls
  attended other running mem found := by
    by_cases same : other = actor
    · subst same
      obtain ⟨old, -, -, -, attended⟩ := own running found
      exact attended mem
    · exact (awake.attended other running mem (others other same ▸ found)).mono (by rw [store])
        (ready other same)

/-- An actor has looked at its inbox to the end. -/
lemma not_waits_of_pick (listed : List Id) (inbox : Inbox.listed world.store running.config.inbox =
    listed) (none : (world.lookFor running listed).next = none) :
    ¬ world.Waits { running with cursor := (world.lookFor running listed).cursor } := by
  have spec := Inbox.look_spec world.store running.cursor (listed.drop running.cursor)
  obtain ⟨-, cursor⟩ := spec.none none
  unfold Waits lookFor
  dsimp only
  rw [inbox, cursor, List.length_drop]
  omega

lemma remember (awake : AwakeAmong among before) (actor : Id) (memory : Memory) :
    AwakeAmong among (before.remember actor memory) := by
  refine awake.of_one actor (updateRunning_store _ _ _) ?_ ?_ ?_
  · intro other _ queued
    rwa [World.remember, updateRunning_ready]
  · intro other ne
    rw [World.remember, find?_updateRunning, if_neg (Ne.symm ne)]
  · intro new found
    obtain ⟨old, there, eq⟩ := find?_updateRunning_some found
    rw [if_pos rfl] at eq
    subst eq
    have attended (mem : among actor) : (before.remember actor memory).Attended actor old :=
      (awake.attended actor old mem there).mono (by rw [World.remember, updateRunning_store])
        fun queued => by rwa [World.remember, updateRunning_ready]
    exact ⟨old, there, rfl, rfl, attended⟩

/-- Taking an actor from the queue leaves the others queued. -/
lemma queued_of_pop {ready : ReadyQueue} (next : before.ready.pop? = some (actor, ready))
    (other : Id) (ne : other ≠ actor) (queued : other ∈ before.ready.order) :
    other ∈ ready.order := by
  rw [ReadyQueue.pop?_some next] at queued
  exact (List.mem_cons.1 queued).resolve_left ne

/-- An actor has become idle: it has to be queued if entries wait for it. -/
lemma turnIdle (awake : AwakeAmong among before) (found : before.running.find? actor = some running)
    (running_eq : after.running = (before.turnTo actor .idle).running)
    (store : after.store = before.store)
    (ready : before.ready.order ⊆ after.ready.order)
    (waits : among actor → before.Waits running → actor ∈ after.ready.order) :
    AwakeAmong among after := by
  refine awake.of_one actor store (fun other _ queued => ready queued)
    (fun other ne => ?_) fun new there => ?_
  · rw [running_eq, turnTo, find?_updateRunning, if_neg (Ne.symm ne)]
  · rw [running_eq, turnTo, find?_updateRunning, if_pos rfl, found] at there
    cases there
    refine ⟨running, found, rfl, rfl, fun mem waiting => waits mem ?_⟩
    rwa [Waits, store] at waiting

/-- A new watch has a token of its own. -/
lemma tokens_subscribe (awake : AwakeAmong among before) (object : Id) (listener : Listener) :
    (∀ watch ∈ (before.store.subscribe object listener).2.watches,
      watch.token < (before.store.subscribe object listener).2.nextToken) ∧
    ((before.store.subscribe object listener).2.watches.map Watch.token).Nodup := by
  constructor
  · intro watch mem
    rcases List.mem_append.1 mem with old | new
    · exact Nat.lt_succ_of_lt (awake.token_lt watch old)
    · rw [List.mem_singleton.1 new]
      exact Nat.lt_succ_self _
  · rw [Store.subscribe, List.map_append, List.nodup_append]
    refine ⟨awake.tokens, by simp, ?_⟩
    rintro token old token' new rfl
    obtain ⟨watch, mem, rfl⟩ := List.mem_map.1 old
    have lt := awake.token_lt watch mem
    have eq : watch.token = before.store.nextToken := by simpa using new
    omega

/-- An actor has been entered among the running ones and begins to start. -/
lemma enlist (awake : AwakeAmong among before) (config : ActorConfig) (behavior : Behavior) :
    AwakeAmong among ((before.enlist actor config behavior).turnTo actor .starting) := by
  have store : ((before.enlist actor config behavior).turnTo actor .starting).store =
      (before.store.subscribe config.inbox (.actor actor)).2 := updateRunning_store _ _ _
  have others : ∀ other, other ≠ actor →
      ((before.enlist actor config behavior).turnTo actor .starting).running.find? other =
        before.running.find? other := by
    intro other ne
    rw [turnTo, find?_updateRunning, if_neg (Ne.symm ne), World.enlist]
    dsimp only
    rw [Table.find?_insert, if_neg (Ne.symm ne)]
  have own : ((before.enlist actor config behavior).turnTo actor .starting).running.find? actor =
      some { config, behavior, memory := behavior.initialMemory,
             subscription := before.store.nextToken, activity := .starting } := by
    rw [turnTo, find?_updateRunning, if_pos rfl, World.enlist]
    dsimp only
    rw [Table.find?_insert, if_pos rfl]
    rfl
  have tokens := awake.tokens_subscribe config.inbox (.actor actor)
  refine ⟨⟨?_, ?_, fun other running found => ?_⟩, ?_, fun other running mem found => ?_⟩
  · rw [store]
    exact tokens.1
  · rw [store]
    exact tokens.2
  · rw [store]
    by_cases same : other = actor
    · subst same
      rw [own] at found
      cases found
      exact List.mem_append_right _ (List.mem_singleton.2 rfl)
    · rw [others other same] at found
      exact List.mem_append_left _ (awake.subscribed other running found)
  · rw [store]
    exact awake.calls
  · by_cases same : other = actor
    · subst same
      rw [own] at found
      cases found
      trivial
    · rw [others other same] at found
      refine (awake.attended other running mem found).mono (by rw [store]; rfl) fun queued => ?_
      rw [turnTo, updateRunning_ready]
      exact queued

lemma step (step : Step before after) (awake : AwakeAmong among before) :
    AwakeAmong among after := by
  cases step with
  | write op => exact awake.storeFrame (before.write_storeFrame op)
  | post target message => exact awake.storeFrame (before.post_storeFrame target message)
  | mark handles => exact awake.storeFrame (before.mark_storeFrame _)
  | tools | ask | render | pump => exact awake.of_eq rfl rfl rfl
  | accept =>
    rcases acceptReply_cases before _ _ _ with same | ⟨correlation, ask, -, -, -, -, done⟩
    · rwa [same]
    · rw [done]
      exact awake.of_eq rfl rfl rfl
  | remember actor memory => exact awake.remember actor memory
  | skip next nothing =>
    refine awake.of_one _ rfl (queued_of_pop next) (fun _ _ => rfl) fun new found => ?_
    refine ⟨new, found, rfl, rfl, fun _ => ?_⟩
    -- it has no inbox that could be read, so nothing waits there
    obtain ⟨idle, none⟩ := nothing new found
    unfold Attended Waits
    simp [idle, Inbox.listed, none]
  | @pass actor ready running next found idle none =>
    refine awake.of_one actor (pick_store _ _ _ _) (fun other ne queued => ?_)
      (fun other ne => ?_) fun new there => ?_
    · rw [pick_ready]
      exact queued_of_pop next other ne queued
    · rw [find?_pick, if_neg (Ne.symm ne)]
    · rw [find?_pick, if_pos rfl] at there
      dsimp only at there
      rw [found] at there
      cases there
      refine ⟨running, found, rfl, rfl, fun _ => ?_⟩
      -- the look went through the whole list, so nothing waits
      have done := not_waits_of_pick _ rfl (pick_fst _ _ _ _ ▸ none)
      unfold Attended
      dsimp only
      rw [idle]
      intro waits
      rw [Waits, pick_store] at waits
      exact absurd waits done
  | @take actor ready running taken next found idle some =>
    refine awake.of_one actor ?_ (fun other ne queued => ?_) (fun other ne => ?_)
      fun new there => ?_
    · rw [turnTo, updateRunning_store, pick_store]
    · rw [turnTo, updateRunning_ready, pick_ready]
      exact queued_of_pop next other ne queued
    · rw [turnTo, find?_updateRunning, if_neg (Ne.symm ne), find?_pick, if_neg (Ne.symm ne)]
    · rw [turnTo, find?_updateRunning, if_pos rfl, find?_pick, if_pos rfl] at there
      dsimp only at there
      rw [found] at there
      cases there
      refine ⟨running, found, rfl, rfl, fun _ => .inr ?_⟩
      rw [turnTo, updateRunning_store, pick_store]
  | @finish actor running listed found busy =>
    split
    · refine awake.turnIdle found rfl (updateRunning_store _ _ _) ?_ fun _ _ => ?_
      · exact fun other queued => (ReadyQueue.prefix_push _ actor).subset
          (by rwa [turnTo, updateRunning_ready])
      · exact ReadyQueue.mem_push _ actor
    -- nothing was listed when it took its entry; what came meanwhile has queued it
    · rename_i done
      refine awake.turnIdle found rfl (updateRunning_store _ _ _) ?_ fun mem waits => ?_
      · rw [turnTo, updateRunning_ready]
        exact fun other queued => queued
      · have attended := awake.attended actor running mem found
        unfold Attended at attended
        rw [busy] at attended
        rw [turnTo, updateRunning_ready]
        refine attended.resolve_right fun same => done ?_
        rwa [Waits, same] at waits
  | enlist stopped record loaded => exact awake.enlist _ _
  | @started actor running found busy =>
    refine awake.turnIdle found rfl (updateRunning_store _ _ _) ?_ fun _ _ => ?_
    · exact fun other queued => (ReadyQueue.prefix_push _ actor).subset
        (by rwa [turnTo, updateRunning_ready])
    · exact ReadyQueue.mem_push _ actor

/-- An actor is dropped with its watch; the others keep theirs. -/
lemma dismiss (awake : AwakeAmong among before)
    (found : before.running.find? actor = some running) :
    AwakeAmong among (before.dismiss actor running) := by
  have others : ∀ other running', (before.dismiss actor running).running.find? other =
      some running' → other ≠ actor ∧ before.running.find? other = some running' := by
    intro other running' there
    rw [World.dismiss, Table.find?_erase] at there
    split at there
    · cases there
    · rename_i ne
      exact ⟨Ne.symm ne, there⟩
  refine ⟨⟨?_, ?_, fun other running' there => ?_⟩, awake.calls,
    fun other running' mem there => ?_⟩
  · exact fun watch mem => awake.token_lt watch (List.mem_filter.1 mem).1
  · exact awake.tokens.sublist (List.filter_sublist.map _)
  · obtain ⟨ne, there⟩ := others other running' there
    have watched := awake.subscribed other running' there
    refine List.mem_filter.2 ⟨watched, ?_⟩
    -- were the tokens the same, so would be the watches, and with them the actors
    simp only [bne_iff_ne]
    intro same
    have mine := awake.subscribed actor running found
    have eq := List.inj_on_of_nodup_map awake.tokens watched mine same
    simp only [Watch.mk.injEq, Listener.actor.injEq] at eq
    exact ne eq.2.2
  · obtain ⟨-, there⟩ := others other running' there
    exact (awake.attended other running' mem there).mono rfl id

lemma watch (awake : AwakeAmong among before) (object : Id) (name : String) :
    AwakeAmong among { before with store := (before.store.subscribe object (.outside name)).2 } := by
  have tokens := awake.tokens_subscribe object (.outside name)
  refine ⟨⟨tokens.1, tokens.2, fun other running found => ?_⟩, awake.calls,
    fun other running mem found => ?_⟩
  · exact List.mem_append_left _ (awake.subscribed other running found)
  · exact (awake.attended other running mem found).mono rfl id

lemma unwatch (awake : AwakeAmong among before) (token : Nat) :
    AwakeAmong among (before.unwatch token) := by
  unfold World.unwatch
  split
  · exact awake
  · rename_i outside
    refine ⟨⟨?_, ?_, fun other running found => ?_⟩, awake.calls,
      fun other running mem found => ?_⟩
    · exact fun watch mem => awake.token_lt watch (List.mem_filter.1 mem).1
    · exact awake.tokens.sublist (List.filter_sublist.map _)
    · have watched := awake.subscribed other running found
      refine List.mem_filter.2 ⟨watched, ?_⟩
      simp only [bne_iff_ne]
      intro same
      exact outside (List.any_eq_true.2 ⟨_, watched, by simp [same]⟩)
    · exact (awake.attended other running mem found).mono rfl id

lemma order (order : Order before after) (awake : AwakeAmong among before) :
    AwakeAmong among after := by
  cases order with
  | makeInbox => exact awake.storeFrame before.makeInbox_storeFrame
  | make value => exact awake.storeFrame (before.make_storeFrame value)
  | own made owner => exact awake.storeFrame (before.own_storeFrame _ owner)
  | schedule actor => exact awake.storeFrame (before.schedule_storeFrame actor)
  | dismiss found idle => exact awake.dismiss found
  | watch object name => exact awake.watch object name
  | unwatch token => exact awake.unwatch token
  | timeOut | track | registerSchema | setTools | onRerender | setTime =>
    exact awake.of_eq rfl rfl rfl
  | protect object =>
    exact ⟨⟨awake.token_lt, awake.tokens, awake.subscribed⟩, awake.calls, awake.attended⟩
  | restart config restored =>
    obtain ⟨store, read, rfl⟩ := restore?_some restored
    unfold Store.reload? at read
    obtain ⟨image, -, rfl⟩ := Option.map_eq_some_iff.1 read
    exact (awake_of_stopped rfl rfl rfl).toAmong among

lemma calm (calm : Calm before after) (awake : AwakeAmong among before) :
    AwakeAmong among after := by
  induction calm with
  | refl => exact awake
  | tail _ move ih => exact move.elim ih.step ih.order

end AwakeAmong

/-- Steps and orders lose no wakeup. -/
lemma Awake.calm (calm : Calm before after) (awake : before.Awake) : after.Awake :=
  ((awake.toAmong _).calm calm).awake

/-- When the queue is empty, entries wait for nobody who is idle. -/
lemma AwakeAmong.of_served (awake : AwakeAmong among world) (mem : among actor)
    (served : world.ready.order = []) (found : world.running.find? actor = some running)
    (idle : running.activity = .idle) : ¬ world.Waits running := by
  intro waits
  have attended := awake.attended actor running mem found
  unfold Attended at attended
  rw [idle] at attended
  have queued := attended waits
  rw [served] at queued
  cases queued

lemma Awake.of_served (awake : world.Awake) (idle : world.Idle) (served : world.ready.order = [])
    (found : world.running.find? actor = some running) : ¬ world.Waits running :=
  (awake.toAmong fun _ => True).of_served trivial served found (idle actor running found)

end World

open World

/-- A round of draining that returns finds nobody queued, or drains the next actor and goes on. -/
lemma Engine.drainAll_succ_ok {engine : Engine} {rounds handled total : Nat} {world after : World}
    (ran : engine.drainAll (rounds + 1) handled world = .ok total after) :
    world.ready.pop? = none ∧ total = handled ∧ after = world ∨
      ∃ actor ready did middle, world.ready.pop? = some (actor, ready) ∧
        engine.drain actor { world with ready } = .ok did middle ∧
        engine.drainAll rounds (if did then handled + 1 else handled) middle = .ok total after := by
  rw [drainAll, Run.get_bind] at ran
  cases next : world.ready.pop? with
  | none =>
    rw [next] at ran
    cases ran
    exact .inl ⟨rfl, rfl, rfl⟩
  | some popped =>
    obtain ⟨actor, ready⟩ := popped
    rw [next] at ran
    replace ran := (Run.set_bind _ _ _).symm.trans ran
    obtain ⟨did, middle, drained, ran⟩ := Run.ok_of_bind ran
    exact .inr ⟨actor, ready, did, middle, rfl, drained, ran⟩

/-- Draining ends when no actor is queued. -/
lemma Engine.drainAll_serves (engine : Engine) (rounds : Nat) {start handled : Nat}
    {world after : World} (ran : engine.drainAll rounds start world = .ok handled after) :
    after.ready.order = [] := by
  induction rounds generalizing start world with
  | zero => cases ran
  | succ rounds ih =>
    rcases drainAll_succ_ok ran with ⟨next, -, rfl⟩ | ⟨actor, ready, did, middle, -, -, ran⟩
    · exact ReadyQueue.pop?_none next
    · exact ih ran

/-- A pump that is not nested in another ends with an empty queue. -/
lemma Engine.pump_serves (depth : Nat) {world after : World} {handled : Nat}
    (outermost : world.pumping = false) (ran : (engine depth).pump world = .ok handled after) :
    after.ready.order = [] := by
  cases depth with
  | zero => cases ran
  | succ depth =>
    change Engine.pumpAt (depth + 1) world = .ok handled after at ran
    rw [Engine.pumpAt, Engine.pumpWith, if_neg (by simp [outermost])] at ran
    split at ran
    · rename_i last ended
      cases ran
      have served := drainAll_serves _ _ ended
      exact served
    · cases ran

/-- No wakeup is lost.  Wherever no pass is under way, a running actor for which entries wait is
queued; so when a pump that is not nested in another has ended, entries wait for nobody. -/
theorem Quiet.no_lost_wakeup (config : Config) (supply : Supply) (image : StoreImage)
    (correlations : Supply) (clock : Clock) {world : World}
    (quiet : Quiet (World.new config (Store.ofImage supply image) correlations clock) world) :
    (∀ actor running, world.running.find? actor = some running →
      running.cursor < (Inbox.listed world.store running.config.inbox).length →
      actor ∈ world.ready.order) ∧
    ∀ depth handled after, world.pumping = false →
      (engine depth).pump world = .ok handled after →
      ∀ actor running, after.running.find? actor = some running →
        (Inbox.listed after.store running.config.inbox).length ≤ running.cursor := by
  have askers := AskersRun.first config (Store.ofImage supply image) correlations clock
  have idle : (World.new config (Store.ofImage supply image) correlations clock).Idle :=
    fun _ _ found => by simp [World.new] at found
  have awakeAt : ∀ {world}, Quiet (World.new config (Store.ofImage supply image) correlations
      clock) world → world.Awake ∧ world.Idle := fun quiet =>
    ⟨(awake_of_stopped rfl rfl rfl).calm (quiet.calm askers).1, (quiet.calm askers).2.idle idle⟩
  constructor
  · obtain ⟨awake, idle⟩ := awakeAt quiet
    intro actor running found waits
    have attended := awake.attended actor running found
    unfold Attended at attended
    rw [idle actor running found] at attended
    exact attended waits
  · intro depth handled after outermost ran actor running found
    have returned : Command.pump.run depth world = .ok () after := by
      rw [Command.run]
      exact Run.bind_of_ok ran
    obtain ⟨awake, idle⟩ := awakeAt (quiet.returned depth .pump returned)
    exact Nat.not_lt.1 (awake.of_served idle (Engine.pump_serves depth outermost ran) found)

/-- An actor that has started over an inbox with a message is queued, and a pump hands it the
message. -/
theorem Quiet.started_is_queued :
    ∃ world running after last,
      Quiet (World.new {} (Store.ofImage ⟨.ofNat, 10⟩ Sample.image) ⟨.ofNat, 0⟩ ⟨0, 1000⟩) world ∧
      world.running.find? Sample.actor = some running ∧ world.Waits running ∧
      Sample.actor ∈ world.ready.order ∧
      (engine 2).pump world = .ok 1 after ∧ after.running.find? Sample.actor = some last ∧
      (Inbox.listed after.store last.config.inbox).length ≤ last.cursor := by
  obtain ⟨⟨⟩, world, ran, tested⟩ := Run.exists_of_returns
    (Command.run 1 (.start Sample.actor))
    (fun _ world =>
      (world.running.find? Sample.actor).any (fun running => world.Waits running) &&
        !world.pumping && (engine 2).pump.returns
          (fun handled after => handled == 1 && after.running.contains Sample.actor) world)
    (World.new {} (Store.ofImage ⟨.ofNat, 10⟩ Sample.image) ⟨.ofNat, 0⟩ ⟨0, 1000⟩)
    (by decide +kernel)
  have quiet := Quiet.first.returned 1 (.start Sample.actor) ran
  simp only [Bool.and_eq_true, Option.any_eq_true, decide_eq_true_eq, Bool.not_eq_true'] at tested
  obtain ⟨⟨⟨running, found, waits⟩, outermost⟩, pumped⟩ := tested
  obtain ⟨handled, after, pump, tested⟩ := Run.exists_of_returns _ _ _ pumped
  simp only [Bool.and_eq_true, beq_iff_eq] at tested
  obtain ⟨rfl, runs⟩ := tested
  obtain ⟨last, there⟩ := Table.contains_iff.1 runs
  have wakeups := quiet.no_lost_wakeup
  exact ⟨world, running, after, last, quiet, found, waits,
    wakeups.1 _ _ found waits, pump, there, wakeups.2 2 1 after outermost pump _ last there⟩

end Troupe
