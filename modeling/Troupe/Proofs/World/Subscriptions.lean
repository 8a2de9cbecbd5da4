import Troupe.Proofs.World.Admission
import Troupe.Proofs.World.Notices
import Troupe.Proofs.World.Recovery
import Troupe.Proofs.World.Resumption
import Troupe.Proofs.World.Screening

/-!
# One subscription for each running actor

An actor begins to watch its inbox when it is entered among the running ones, and its watch is
taken off when it is dropped from them.  What else happens leaves the watches of actors alone:
passes, with all that is nested in them, calls that break off, and listeners outside that come and
go.  So the actors among the listeners are the running ones, each once, and each on the inbox that
it was spawned with (`World.Owned`, `World.Watchful`).

## Main results

* `World.Owned.moves`: no watch of an actor is left behind;
* `World.Watchful.exists_split`: the watch of a running actor is the only one that it has;
* `World.mem_ready_write`, `World.mem_ready_post`: who is queued by a write;
* `Session.one_subscription_each`: all of it together.
-/

namespace Troupe

open Relation

/-- The actor that listens, if it is one. -/
def Listener.actor? : Listener → Option Id
  | .actor id => some id
  | .outside _ => none

/-- The watch that a running actor has on its inbox. -/
def Running.watch (running : Running) (actor : Id) : Watch :=
  ⟨running.subscription, running.config.inbox, .actor actor⟩

/-- Whether a note is of an actor that begins or ceases to run. -/
def Note.ofLife : Note → Bool
  | .spawned .. | .stopped _ | .restored => true
  | _ => false

namespace Journal

/-- The inbox that an actor was spawned with, if it has not been stopped since. -/
def home? (actor : Id) : List Note → Option Id
  | [] => none
  | .spawned other inbox :: earlier => if other = actor then some inbox else home? actor earlier
  | .stopped other :: earlier => if other = actor then none else home? actor earlier
  | .restored :: _ => none
  | _ :: earlier => home? actor earlier

lemma home?_append {notes : List Note} (lifeless : ∀ note ∈ notes, note.ofLife = false)
    (actor : Id) (earlier : List Note) : home? actor (notes ++ earlier) = home? actor earlier := by
  induction notes with
  | nil => rfl
  | cons note rest ih =>
    rw [← ih fun other mem => lifeless other (List.mem_cons_of_mem _ mem)]
    have none := lifeless note List.mem_cons_self
    cases note <;> first | rfl | cases none

end Journal

namespace World

variable {world before middle after : World} {actor other object : Id} {running : Running}
  {watch : Watch}

/-- The watch that an actor has on its inbox, if it is running. -/
def watchOf? (world : World) (actor : Id) : Option Watch :=
  (world.running.find? actor).map fun running => running.watch actor

lemma liveInbox?_eq (world : World) (actor : Id) :
    world.liveInbox? actor = (world.watchOf? actor).map Watch.object := by
  rw [liveInbox?, watchOf?, Option.map_map]
  rfl

/-! ## No watch is left behind -/

/-- Every actor that listens is running, and listens to its inbox alone; and it is running since it
was spawned with that inbox. -/
structure Owned (world : World) : Prop where
  /-- A watch of an actor is the one of the running actor. -/
  owned : ∀ watch ∈ world.store.watches, ∀ actor, watch.listener = .actor actor →
    world.watchOf? actor = some watch
  /-- Those run who have been spawned and not stopped since. -/
  home : ∀ actor, world.liveInbox? actor = Journal.home? actor world.journal

/-- Nobody begins or ceases to listen or to run. -/
structure KeepsWatches (before after : World) : Prop where
  /-- The listeners stay. -/
  watches : after.store.watches = before.store.watches
  /-- The watches of the running actors stay. -/
  running : ∀ actor, after.watchOf? actor = before.watchOf? actor
  /-- Nothing is noted of an actor that begins or ceases to run. -/
  journal : ∃ notes, after.journal = notes ++ before.journal ∧ ∀ note ∈ notes, note.ofLife = false

namespace KeepsWatches

protected lemma trans (first : before.KeepsWatches middle) (second : middle.KeepsWatches after) :
    before.KeepsWatches after := by
  obtain ⟨notes₁, eq₁, none₁⟩ := first.journal
  obtain ⟨notes₂, eq₂, none₂⟩ := second.journal
  refine ⟨second.watches.trans first.watches,
    fun actor => (second.running actor).trans (first.running actor), notes₂ ++ notes₁,
    by rw [eq₂, eq₁, List.append_assoc], fun note mem => ?_⟩
  exact (List.mem_append.1 mem).elim (none₂ note) (none₁ note)

/-- The store and the running actors stay. -/
lemma of_notes (notes : List Note) (watches : after.store.watches = before.store.watches)
    (running : after.running = before.running) (journal : after.journal = notes ++ before.journal)
    (lifeless : ∀ note ∈ notes, note.ofLife = false) : before.KeepsWatches after :=
  ⟨watches, fun actor => by rw [watchOf?, watchOf?, running], notes, journal, lifeless⟩

lemma of_eq (watches : after.store.watches = before.store.watches)
    (running : after.running = before.running) (journal : after.journal = before.journal) :
    before.KeepsWatches after :=
  of_notes [] watches running journal (by simp)

end KeepsWatches

lemma StoreFrame.keepsWatches (storeFrame : before.StoreFrame after) :
    before.KeepsWatches after := by
  obtain ⟨notes, journal, ofStore⟩ := storeFrame.journal
  refine .of_notes notes storeFrame.store.watches storeFrame.running journal fun note mem => ?_
  have store := ofStore note mem
  cases note <;> first | rfl | cases store

/-- What is changed of a running actor has nothing to do with its watch. -/
lemma updateRunning_keepsWatches (world : World) (actor : Id) {change : Running → Running}
    (same : ∀ running other, (change running).watch other = running.watch other) :
    world.KeepsWatches (world.updateRunning actor change) where
  watches := by rw [updateRunning_store]
  running other := by
    rw [watchOf?, watchOf?, find?_updateRunning]
    split
    · rw [Option.map_map]
      exact congrFun (congrArg Option.map (funext fun running => same running other)) _
    · rfl
  journal := ⟨[], updateRunning_journal _ _ _, by simp⟩

lemma turnTo_keepsWatches (world : World) (actor : Id) (activity : Activity) :
    world.KeepsWatches (world.turnTo actor activity) :=
  updateRunning_keepsWatches _ _ fun _ _ => rfl

lemma pick_keepsWatches (world : World) (actor : Id) (running : Running) (listed : List Id) :
    world.KeepsWatches (world.pick actor running listed).2 := by
  have moved : world.KeepsWatches (world.updateRunning actor fun old =>
      { old with cursor := (world.lookFor running listed).cursor }) :=
    updateRunning_keepsWatches _ _ fun _ _ => rfl
  rw [pick_eq]
  refine moved.trans ?_
  refine .of_notes (lookNotes actor running.config.inbox (world.lookFor running listed)) rfl rfl
    (by rw [updateRunning_journal]) fun note mem => ?_
  obtain ⟨_, _, _, looks⟩ := looks_of_mem mem
  cases looks <;> rfl

namespace Owned

lemma keeps (owned : before.Owned) (keeps : before.KeepsWatches after) : after.Owned where
  owned watch mem actor listens := by
    rw [keeps.running]
    exact owned.owned watch (keeps.watches ▸ mem) actor listens
  home actor := by
    obtain ⟨notes, journal, lifeless⟩ := keeps.journal
    rw [journal, Journal.home?_append lifeless, liveInbox?_eq, keeps.running, ← liveInbox?_eq]
    exact owned.home actor

/-- Nobody listens at first. -/
lemma of_stopped (running : world.running = ∅) (watches : world.store.watches = [])
    (home : ∀ actor, Journal.home? actor world.journal = none) : world.Owned where
  owned watch mem := by simp [watches] at mem
  home actor := by rw [home, liveInbox?, running]; rfl

/-- An actor has been entered among the running ones, and watches its inbox. -/
lemma enlist (owned : before.Owned) (stopped : before.running.contains actor = false)
    (config : ActorConfig) (behavior : Behavior) : (before.enlist actor config behavior).Owned := by
  have none : before.watchOf? actor = none := by
    rw [watchOf?, Table.find?_of_not_contains stopped, Option.map_none]
  have now : ∀ other, (before.enlist actor config behavior).watchOf? other =
      if actor = other then some ⟨before.store.nextToken, config.inbox, .actor actor⟩
      else before.watchOf? other := by
    intro other
    rw [watchOf?, World.enlist]
    dsimp only
    rw [Table.find?_insert]
    split
    · rename_i same
      cases same
      rfl
    · rfl
  refine ⟨fun watch mem other listens => ?_, fun other => ?_⟩
  · rw [now]
    rcases List.mem_append.1 mem with old | new
    · have there := owned.owned watch old other listens
      -- the actor did not run, so it had no watch
      rw [if_neg fun same => by simp [← same, none] at there]
      exact there
    · obtain rfl := List.mem_singleton.1 new
      cases listens
      exact if_pos rfl
  · rw [liveInbox?_eq, now]
    change _ = if actor = other then some config.inbox else Journal.home? other before.journal
    split
    · rfl
    · rw [← liveInbox?_eq, owned.home]

/-- An actor has been dropped, with its watch. -/
lemma dismiss (owned : before.Owned) (found : before.running.find? actor = some running) :
    (before.dismiss actor running).Owned := by
  have now : ∀ other, (before.dismiss actor running).watchOf? other =
      if actor = other then none else before.watchOf? other := by
    intro other
    rw [watchOf?, World.dismiss, Table.find?_erase]
    split <;> rfl
  refine ⟨fun watch mem other listens => ?_, fun other => ?_⟩
  · obtain ⟨old, kept⟩ := List.mem_filter.1 mem
    have there := owned.owned watch old other listens
    rw [now, if_neg, there]
    rintro rfl
    -- the watch of the actor has been taken off
    rw [watchOf?, found, Option.map_some, Option.some.injEq] at there
    simp [← there, Running.watch] at kept
  · rw [liveInbox?_eq, now]
    have journal : Journal.home? other (before.dismiss actor running).journal =
        if actor = other then none else Journal.home? other before.journal := by
      refine (Journal.home?_append (fun note mem => ?_) _ _).trans rfl
      obtain ⟨_, -, rfl⟩ := List.mem_map.1 mem
      rfl
    rw [journal]
    split
    · rfl
    · rw [← liveInbox?_eq, owned.home]

/-- Only listeners outside come and go. -/
lemma of_watches (owned : before.Owned) {store : Store}
    (mem : ∀ watch ∈ store.watches, ∀ actor, watch.listener = .actor actor →
      watch ∈ before.store.watches) :
    ({ before with store } : World).Owned :=
  ⟨fun watch there actor listens => owned.owned watch (mem watch there actor listens) actor listens,
    owned.home⟩

lemma step (step : Step before after) (owned : before.Owned) : after.Owned := by
  cases step with
  | write op => exact owned.keeps (before.write_storeFrame op).keepsWatches
  | post target message => exact owned.keeps (before.post_storeFrame target message).keepsWatches
  | mark handles => exact owned.keeps (before.mark_storeFrame _).keepsWatches
  | tools | render | pump | skip => exact owned.keeps (.of_eq rfl rfl rfl)
  | remember actor memory =>
    exact owned.keeps (updateRunning_keepsWatches _ _ fun _ _ => rfl)
  | ask => exact owned.keeps (.of_notes [_] rfl rfl rfl (by simp [Note.ofLife]))
  | accept =>
    rcases acceptReply_cases before _ _ _ with same | ⟨_, _, -, -, -, -, done⟩
    · rwa [same]
    · rw [done]
      exact owned.keeps (.of_notes [_] rfl rfl rfl (by simp [Note.ofLife]))
  | @pass actor ready running =>
    have popped : before.KeepsWatches { before with ready } := .of_eq rfl rfl rfl
    exact owned.keeps (popped.trans (pick_keepsWatches _ _ _ _))
  | @take actor ready running =>
    have popped : before.KeepsWatches { before with ready } := .of_eq rfl rfl rfl
    exact owned.keeps
      ((popped.trans (pick_keepsWatches _ _ _ _)).trans (turnTo_keepsWatches _ _ _))
  | finish =>
    split
    · exact owned.keeps ((turnTo_keepsWatches _ _ _).trans (schedule_storeFrame _ _).keepsWatches)
    · exact owned.keeps (turnTo_keepsWatches _ _ _)
  | started =>
    exact owned.keeps ((turnTo_keepsWatches _ _ _).trans (schedule_storeFrame _ _).keepsWatches)
  | enlist stopped => exact (owned.enlist stopped _ _).keeps (turnTo_keepsWatches _ _ _)

lemma stepOrBreak (stepOrBreak : StepOrBreak before after) (owned : before.Owned) :
    after.Owned := by
  cases stepOrBreak with
  | step taken => exact owned.step taken
  | breakOff => exact owned.keeps (turnTo_keepsWatches _ _ _)
  | jam => exact owned.keeps (.of_eq rfl rfl rfl)

lemma order (order : Order before after) (owned : before.Owned) : after.Owned := by
  cases order with
  | makeInbox => exact owned.keeps before.makeInbox_storeFrame.keepsWatches
  | make value => exact owned.keeps (before.make_storeFrame value).keepsWatches
  | own made owner => exact owned.keeps (before.own_storeFrame _ owner).keepsWatches
  | schedule actor => exact owned.keeps (before.schedule_storeFrame actor).keepsWatches
  | dismiss found => exact owned.dismiss found
  | timeOut now =>
    refine owned.keeps (.of_notes _ rfl rfl rfl fun note mem => ?_)
    obtain ⟨_, -, rfl⟩ := List.mem_map.1 mem
    rfl
  | track | protect | registerSchema | setTools | onRerender | setTime =>
    exact owned.keeps (.of_eq rfl rfl rfl)
  | watch object name =>
    refine owned.of_watches fun watch mem actor listens => ?_
    refine (List.mem_append.1 mem).resolve_right fun new => ?_
    rw [List.mem_singleton.1 new] at listens
    cases listens
  | unwatch token =>
    unfold World.unwatch
    split
    · exact owned
    · exact owned.of_watches fun watch mem _ _ => (List.mem_filter.1 mem).1
  | restart config restored =>
    obtain ⟨store, read, rfl⟩ := restore?_some restored
    unfold Store.reload? at read
    obtain ⟨image, -, rfl⟩ := Option.map_eq_some_iff.1 read
    exact of_stopped rfl rfl fun _ => rfl

/-- No watch of an actor is left behind, whatever is done and whatever breaks off. -/
theorem moves (moves : Moves before after) (owned : before.Owned) : after.Owned := by
  induction moves with
  | refl => exact owned
  | tail _ move ih => exact move.elim ih.stepOrBreak ih.order

end Owned

/-! ## One watch each -/

namespace Watchful

variable (watchful : world.Watchful)

include watchful

lemma mem_watches (watched : world.watchOf? actor = some watch) :
    watch ∈ world.store.watches ∧ watch.listener = .actor actor := by
  obtain ⟨running, found, rfl⟩ := Option.map_eq_some_iff.1 watched
  exact ⟨watchful.subscribed actor running found, rfl⟩

variable (owned : world.Owned)

include owned

/-- Among the watches no other than its own is one of an actor, and no other has its token. -/
lemma exists_split (watched : world.watchOf? actor = some watch) : ∃ early late,
    world.store.watches = early ++ watch :: late ∧
      ∀ other ∈ early ++ late, other.token ≠ watch.token ∧ other.listener ≠ .actor actor := by
  obtain ⟨early, late, split⟩ := List.append_of_mem (watchful.mem_watches watched).1
  have tokens := watchful.tokens
  rw [split, List.map_append, List.map_cons, List.nodup_middle, ← List.map_append,
    List.nodup_cons] at tokens
  have ne : ∀ other ∈ early ++ late, other.token ≠ watch.token :=
    fun other mem same => tokens.1 (List.mem_map.2 ⟨other, mem, same⟩)
  refine ⟨early, late, split, fun other mem => ⟨ne other mem, fun listens => ?_⟩⟩
  have there : other ∈ world.store.watches := by
    rw [split]
    exact List.mem_append.2 ((List.mem_append.1 mem).imp_right (List.mem_cons_of_mem _))
  have same := (owned.owned other there actor listens).symm.trans watched
  exact ne other mem (congrArg Watch.token (Option.some.inj same))

/-- A running actor listens to its inbox once, and to nothing else; one that does not run listens to
nothing. -/
theorem count_listeners (actor object : Id) :
    (world.store.listeners object).count (.actor actor) =
      if world.liveInbox? actor = some object then 1 else 0 := by
  have nobody : ∀ watches : List Watch,
      (∀ watch ∈ watches, watch.listener ≠ .actor actor) →
      ((watches.filter fun watch => watch.object == object).map Watch.listener).count
        (.actor actor) = 0 := by
    intro watches others
    refine List.count_eq_zero.2 fun mem => ?_
    obtain ⟨watch, there, listens⟩ := List.mem_map.1 mem
    exact others watch (List.mem_filter.1 there).1 listens
  rw [liveInbox?_eq, Store.listeners]
  cases watched : world.watchOf? actor with
  | none =>
    rw [Option.map_none, if_neg (by simp)]
    refine nobody _ fun watch mem listens => ?_
    rw [owned.owned watch mem actor listens] at watched
    cases watched
  | some watch =>
    obtain ⟨early, late, split, others⟩ := watchful.exists_split owned watched
    have before := nobody early fun other mem =>
      (others other (List.mem_append_left _ mem)).2
    have behind := nobody late fun other mem =>
      (others other (List.mem_append_right _ mem)).2
    rw [split, List.filter_append, List.map_append, List.count_append, before, List.filter_cons,
      Option.map_some, Nat.zero_add]
    by_cases same : watch.object = object
    · rw [if_pos (beq_iff_eq.2 same), if_pos (congrArg some same), List.map_cons, List.count_cons,
        behind, (watchful.mem_watches watched).2]
      simp
    · rw [if_neg (by simpa using same), if_neg (by simpa using same), behind]

lemma mem_listeners_iff : Listener.actor actor ∈ world.store.listeners object ↔
    world.liveInbox? actor = some object := by
  rw [← List.count_pos_iff, watchful.count_listeners owned]
  split <;> simp [*]

/-- The actors among the listeners are the running ones, each once. -/
theorem listening_perm :
    (world.store.watches.filterMap fun watch => watch.listener.actor?).Perm world.running.keys := by
  have listens : ∀ {watch : Watch} {actor : Id}, watch.listener.actor? = some actor ↔
      watch.listener = .actor actor := by
    intro watch actor
    cases watch.listener <;> simp [Listener.actor?]
  have nodup : (world.store.watches.filterMap fun watch => watch.listener.actor?).Nodup := by
    refine List.pairwise_filterMap.2 ?_
    refine List.Pairwise.imp_of_mem ?_ (List.Nodup.of_map _ watchful.tokens)
    -- two watches of one actor are the same
    rintro one other mem mem' ne actor first _ second rfl
    have same := owned.owned one mem actor (listens.1 first)
    rw [owned.owned other mem' actor (listens.1 second)] at same
    exact ne (Option.some.inj same).symm
  refine (List.perm_ext_iff_of_nodup nodup world.running.nodup_keys).2 fun actor => ?_
  rw [List.mem_filterMap, List.mem_map]
  constructor
  · rintro ⟨watch, mem, listening⟩
    obtain ⟨running, found, -⟩ :=
      Option.map_eq_some_iff.1 (owned.owned watch mem actor (listens.1 listening))
    exact ⟨(actor, running), Table.mem_entries.2 found, rfl⟩
  · rintro ⟨⟨_, running⟩, mem, rfl⟩
    exact ⟨_, watchful.subscribed _ running (Table.mem_entries.1 mem), rfl⟩

end Watchful

/-! ## Who is queued by a write -/

lemma mem_ready_withStore {store : Store} : actor ∈ (world.withStore store).ready.order ↔
    actor ∈ world.ready.order ∨ Listener.actor actor ∈ store.calls.map Call.listener := by
  rw [withStore_eq, List.mem_map]
  exact mem_ready_calls

lemma map_listener_calls (listeners : List Listener) (object : Id) (value : Json) :
    (listeners.map fun listener => Call.mk listener object value).map Call.listener =
      listeners := by
  rw [List.map_map]
  exact List.map_id listeners

/-- A write to an object queues those who listen to it. -/
lemma mem_ready_write {op : StoreOp} (made : world.store.calls = [])
    (written : world.store.written? op = some object) :
    actor ∈ (world.write op).2.ready.order ↔
      actor ∈ world.ready.order ∨ Listener.actor actor ∈ world.store.listeners object := by
  have noted : (world.write op).2.ready = (world.withStore (world.store.execute op).2).ready := by
    rw [write_snd]
    split <;> rfl
  rcases world.store.execute_cases op with ⟨none, -⟩ | ⟨target, wrote, write⟩
  · rw [none] at written
    cases written
  · obtain rfl := Option.some.inj (wrote.symm.trans written)
    rw [noted, mem_ready_withStore, write.calls, made, List.nil_append, map_listener_calls]

lemma mem_ready_wake {target : Id} : actor ∈ (world.wake target).ready.order ↔
    actor ∈ world.ready.order ∨ actor = target ∧ world.running.contains target = true := by
  unfold wake
  split
  · rename_i runs
    simp [schedule, ReadyQueue.mem_push_iff, runs]
  · rename_i stopped
    simp [stopped]

/-- A message that is delivered queues those who listen to the inbox in which it is listed, and
those who listen to the message itself. -/
lemma mem_ready_post {target message inbox : Id} {sent : Message} (made : world.store.calls = [])
    (routed : Inbox.inboxOf (some world.store) (world.liveInbox? target) target = .ok inbox)
    (posted : (world.post target sent).1 = .ok message)
    (listens : world.liveInbox? target = some inbox →
      Listener.actor target ∈ world.store.listeners inbox) :
    actor ∈ (world.post target sent).2.ready.order ↔
      actor ∈ world.ready.order ∨ Listener.actor actor ∈ world.store.listeners inbox ∨
        Listener.actor actor ∈ world.store.listeners message := by
  rcases Inbox.append_cases world.store inbox target sent with
    ⟨answer, store, pushed, appended⟩ | ⟨error, refused⟩
  · have same : message = world.store.supply.next := by
      simp only [post, Inbox.post, routed, appended, Except.ok.injEq] at posted
      exact posted.symm
    have created := Inbox.write_withMessage world.store target sent
    have listed := (Store.push_effect pushed).toWrite
    have calls : store.calls.map Call.listener =
        world.store.listeners message ++ world.store.listeners inbox := by
      rw [listed.calls, created.calls, made, List.nil_append, List.map_append, map_listener_calls,
        map_listener_calls, Store.listeners_congr created.watches, same]
      rfl
    have woken : actor = target ∧ world.running.contains target = true →
        Listener.actor actor ∈ world.store.listeners inbox := by
      rintro ⟨rfl, runs⟩
      obtain ⟨running, found⟩ := Table.contains_iff.1 runs
      have live : world.liveInbox? actor = some running.config.inbox := by
        rw [liveInbox?, found]
        rfl
      rw [live] at routed
      cases routed
      exact listens live
    rw [post_of_append routed appended, mem_ready_wake]
    change _ ∈ ((world.note _).withStore store).ready.order ∨
      _ ∧ ((world.note _).withStore store).running.contains target = true ↔ _
    rw [mem_ready_withStore, withStore_running, calls, List.mem_append]
    change (actor ∈ world.ready.order ∨ _) ∨ _ ∧ world.running.contains target = true ↔ _
    tauto
  · simp only [post, Inbox.post, routed, refused] at posted
    cases posted

/-! ## Starting and stopping -/

/-- Dropping an actor takes its own watch off, and no other. -/
lemma Watchful.exists_dismiss (watchful : world.Watchful) (owned : world.Owned)
    (found : world.running.find? actor = some running) : ∃ early late,
    world.store.watches = early ++ running.watch actor :: late ∧
      (world.dismiss actor running).store.watches = early ++ late := by
  have watched : world.watchOf? actor = some (running.watch actor) := by
    rw [watchOf?, found, Option.map_some]
  obtain ⟨early, late, split, others⟩ := watchful.exists_split owned watched
  refine ⟨early, late, split, ?_⟩
  have stay : ∀ part : List Watch, (∀ other ∈ part, other ∈ early ++ late) →
      part.filter (fun other => other.token != running.subscription) = part :=
    fun part among => List.filter_eq_self.2 fun other mem =>
      bne_iff_ne.2 (others other (among other mem)).1
  rw [dismiss, Store.unsubscribe]
  dsimp only
  rw [split, List.filter_append, List.filter_cons, stay early fun _ => List.mem_append_left _,
    stay late fun _ => List.mem_append_right _]
  simp [Running.watch]

/-- An actor that does not run cannot be stopped. -/
lemma stop_of_stopped (stopped : world.running.find? actor = none) :
    World.stop actor world = .ok false world := by
  rw [stop, Run.get_bind, stopped]
  rfl

/-- An actor that runs is not started again. -/
lemma spawn_of_running (depth : Nat) (runs : world.running.contains actor = true) :
    (engine (depth + 1)).spawn actor world = .ok (.ok ()) world := by
  change Engine.spawnAt (depth + 1) actor world = _
  rw [Engine.spawnAt, Engine.spawnWith_eq, if_pos runs]

/-- The subscriptions of actors, where no pass is under way. -/
structure OneSubscriptionEach (world : World) : Prop where
  /-- Those run who have been spawned and not stopped since, each with the inbox that it was
  spawned with. -/
  home : ∀ actor, world.liveInbox? actor = Journal.home? actor world.journal
  /-- A running actor listens to its inbox once and to nothing else, and nobody else listens. -/
  count : ∀ actor object, (world.store.listeners object).count (.actor actor) =
    if world.liveInbox? actor = some object then 1 else 0
  /-- There are as many subscriptions of actors as actors that run, one of each. -/
  perm : (world.store.watches.filterMap fun watch => watch.listener.actor?).Perm world.running.keys
  /-- A store operation that writes to an object queues the running actors with that inbox, and
  nobody else. -/
  write : ∀ op object, world.store.written? op = some object → ∀ actor,
    actor ∈ (world.write op).2.ready.order ↔
      actor ∈ world.ready.order ∨ world.liveInbox? actor = some object
  /-- So does a delivery, which writes to an inbox and to a new object. -/
  post : ∀ target sent inbox message,
    Inbox.inboxOf (some world.store) (world.liveInbox? target) target = .ok inbox →
    (world.post target sent).1 = .ok message → ∀ actor,
    actor ∈ (world.post target sent).2.ready.order ↔
      actor ∈ world.ready.order ∨ world.liveInbox? actor = some inbox ∨
        world.liveInbox? actor = some message
  /-- A spawn that fails leaves nothing behind. -/
  fails : ∀ depth actor error after,
    (engine depth).spawn actor world = .ok (.error error) after → after = world
  /-- A spawn of an actor that runs does nothing. -/
  again : ∀ depth actor, world.running.contains actor = true →
    (engine (depth + 1)).spawn actor world = .ok (.ok ()) world
  /-- To stop an actor takes off its own subscription, and no other. -/
  stop : ∀ actor running, world.running.find? actor = some running → ∃ early late after,
    World.stop actor world = .ok true after ∧
      world.store.watches = early ++ running.watch actor :: late ∧
      after.store.watches = early ++ late
  /-- To stop one that does not run does nothing. -/
  stopped : ∀ actor, world.running.find? actor = none → World.stop actor world = .ok false world

end World

open World

/-- **One subscription for each running actor.**  Wherever no pass is under way in a session,
between commands, whether they returned or a tool broke them off, and between the entries that a
pump handles, the actors among the listeners of the store are the running ones, each once and each
on the inbox that it was spawned with.  So a write to an inbox queues the running actors with that
inbox and nobody else, a spawn that fails leaves no subscription, and to stop an actor takes off its
own alone. -/
theorem Session.one_subscription_each {config : Config} {supply : Supply} {image : StoreImage}
    {correlations : Supply} {clock : Clock} {before world : World}
    (session : Session (World.new config (Store.ofImage supply image) correlations clock) before)
    (quiet : Quiet before world) : world.OneSubscriptionEach := by
  obtain ⟨awake, askers, idle, -⟩ := session.watchful
  obtain ⟨calm, settles⟩ := quiet.calm askers
  have first : (World.new config (Store.ofImage supply image) correlations clock).Owned :=
    .of_stopped rfl rfl fun _ => rfl
  have owned : world.Owned :=
    (first.moves (session.moves (AskersRun.first config _ correlations clock)).1).moves calm.moves
  have awake := awake.calm calm
  have watchful := awake.toWatchful
  have listens : ∀ {actor object}, Listener.actor actor ∈ world.store.listeners object ↔
      world.liveInbox? actor = some object := watchful.mem_listeners_iff owned
  refine ⟨owned.home, watchful.count_listeners owned, watchful.listening_perm owned,
    fun op object written actor => ?_, fun target sent inbox message routed posted actor => ?_,
    fun depth actor error after => Engine.eq_of_spawn_error,
    fun depth actor runs => spawn_of_running depth runs, fun actor running found => ?_,
    fun actor stopped => stop_of_stopped stopped⟩
  · rw [mem_ready_write awake.calls written, listens]
  · rw [mem_ready_post awake.calls routed posted listens.2, listens, listens]
  · obtain ⟨early, late, split, left⟩ := watchful.exists_dismiss owned found
    exact ⟨early, late, _, stop_of_idle found (settles.idle idle actor running found), split, left⟩

namespace Sample

/-- An actor that shares its inbox. -/
def lodger : Id := .ofNat 8

/-- A runtime that knows two actors with one inbox: a machine whose first state runs a tool when it
is entered, and a process. -/
def lodging : World :=
  World.new {} (Store.ofImage ⟨.ofNat, 20⟩ ⟨Table.ofList
    [(.ofNat 1, .obj [("entries", .arr [])]), (.ofNat 2, .empty), (.ofNat 7, .empty),
      (actor, (ActorConfig.toJson ⟨[], .ofNat 1, .ofNat 2,
        .record [("kind", .str "machine"), ("initial", .str "on"), ("states", .record
          [("on", .record [("entry", .record [("function", .empty)])])])],
        some "bang", ∅, ∅⟩)),
      (lodger, (ActorConfig.toJson ⟨[], .ofNat 1, .ofNat 7,
        .record [("kind", .str "process")], none, ∅, ∅⟩))], ∅⟩)
    ⟨.ofNat, 0⟩ ⟨0, 1000⟩

/-- A change of the inbox. -/
def labelling : StoreOp := .update (.ofNat 1) (.obj [("name", .str "shared")])

/-- Whether three listen to the inbox, and both actors run. -/
def shared (world : World) : Bool :=
  world.store.listeners (.ofNat 1) == [.outside "screen", .actor lodger, .actor actor] &&
    world.running.contains actor && world.liveInbox? actor == some (.ofNat 1) &&
    world.liveInbox? lodger == some (.ofNat 1) &&
    world.store.written? labelling == some (.ofNat 1)

end Sample

/-- The start of an actor breaks off whose inbox is watched by another actor, and from outside.  A
write to the inbox queues both actors then; and when the one is stopped, the others go on
watching. -/
theorem Session.one_subscription_each_lodging :
    ∃ (before world stopped : World) (running : Running) (early late : List Watch),
      Session Sample.lodging before ∧
      Command.run 1 (.start Sample.actor) before = .error .panic world ∧
      world.store.listeners (.ofNat 1) =
        [.outside "screen", .actor Sample.lodger, .actor Sample.actor] ∧
      Sample.actor ∈ (world.write Sample.labelling).2.ready.order ∧
      Sample.lodger ∈ (world.write Sample.labelling).2.ready.order ∧
      World.stop Sample.actor world = .ok true stopped ∧
      world.store.watches = early ++ running.watch Sample.actor :: late ∧
      stopped.store.watches = early ++ late := by
  have begun : Session Sample.lodging Sample.lodging := .first
  obtain ⟨before, session, panicked⟩ := Session.exists_of_allReturn 1
    [.setTools (ToolRegistry.register {} Sample.bang), .watch (.ofNat 1) "screen",
      .start Sample.lodger]
    (fun before => (Command.run 1 (.start Sample.actor)).panics Sample.shared before)
    begun (by decide +kernel)
  obtain ⟨world, panicked, shared⟩ := Run.exists_of_panics _ _ _ panicked
  simp only [Sample.shared, Bool.and_eq_true, beq_iff_eq] at shared
  obtain ⟨⟨⟨⟨listeners, runs⟩, home⟩, home'⟩, written⟩ := shared
  obtain ⟨running, found⟩ := Table.contains_iff.1 runs
  have each := (session.brokenOff 1 (.start Sample.actor) panicked).one_subscription_each .first
  obtain ⟨early, late, stopped, ran, split, left⟩ := each.stop _ running found
  have queued := each.write _ _ written
  exact ⟨before, world, stopped, running, early, late, session, panicked, listeners,
    (queued _).2 (.inr home), (queued _).2 (.inr home'), ran, split, left⟩

end Troupe
