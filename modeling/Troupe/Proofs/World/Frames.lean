import Mathlib.Tactic.SplitIfs
import Troupe.Proofs.Inbox
import Troupe.World.Moves

/-!
# What a move leaves alone

Most moves of a runtime write to its store and do nothing else but make the calls that follow.
`World.StoreFrame` says so: the store advances, the actors called are queued, and all the rest of
the state stays.  The other moves change what is known of one running actor
(`World.find?_updateRunning`).

## Main results

* `World.settle_eq`: making the calls of a store only queues actors and notes calls outside;
* `World.write_storeFrame`, `World.post_storeFrame`, `World.mark_storeFrame`,
  `World.make_storeFrame`, `World.makeInbox_storeFrame`, `World.own_storeFrame`: these moves only
  write.
-/

namespace Troupe

/-! ## The queue -/

namespace ReadyQueue

variable (queue : ReadyQueue) (actor : Id)

lemma order_push : (queue.push actor).order =
    if actor ∈ queue.order then queue.order else queue.order ++ [actor] :=
  queue.sound.order_push actor

lemma prefix_push : queue.order <+: (queue.push actor).order := by
  rw [order_push]
  split
  · exact List.prefix_refl _
  · exact List.prefix_append _ _

variable {queue actor} in
lemma mem_push_iff {other : Id} :
    other ∈ (queue.push actor).order ↔ other ∈ queue.order ∨ other = actor :=
  queue.sound.mem_push

lemma mem_push : actor ∈ (queue.push actor).order := mem_push_iff.2 (.inr rfl)

lemma pop?_some {queue rest : ReadyQueue} {actor : Id} (popped : queue.pop? = some (actor, rest)) :
    queue.order = actor :: rest.order := by
  obtain ⟨next, sound, taken, eq⟩ := Option.pmap_eq_some_iff.1 popped
  cases eq
  exact Line.order_of_pop taken

lemma pop?_none {queue : ReadyQueue} (popped : queue.pop? = none) : queue.order = [] :=
  Line.pop?_eq_none.1 (Option.pmap_eq_none_iff.1 popped)

end ReadyQueue

/-- Whether a note is of a write to the store or of a message. -/
def Note.ofStore : Note → Bool
  | .made _ | .wrote .. | .sent .. | .posted .. | .marked _ => true
  | _ => false

namespace World

variable {world before middle after : World} {actor other : Id}

/-! ## Moves that only write -/

/-- `after` is `before` after some writes to the store, which leave the rest of the state alone. -/
structure StoreFrame (before after : World) : Prop where
  /-- The rest of the state stays. -/
  frame : after = { before with
    store := after.store
    ready := after.ready
    notified := after.notified
    journal := after.journal }
  /-- The store advances. -/
  store : before.store.Advances after.store
  /-- The actors that watch an object that was written are queued. -/
  woken : ∀ id, after.store.writeCount id ≠ before.store.writeCount id →
    ∀ actor, Listener.actor actor ∈ before.store.listeners id → actor ∈ after.ready.order
  /-- No actor leaves the queue. -/
  queued : before.ready.order <+: after.ready.order
  /-- No call is left to be made. -/
  calls : before.store.calls = [] → after.store.calls = []
  /-- What is noted is of writes and messages. -/
  journal : ∃ new, after.journal = new ++ before.journal ∧ ∀ note ∈ new, note.ofStore

namespace StoreFrame

lemma running (same : before.StoreFrame after) : after.running = before.running := by rw [same.frame]
lemma pending (same : before.StoreFrame after) : after.pending = before.pending := by rw [same.frame]
lemma expired (same : before.StoreFrame after) : after.expired = before.expired := by rw [same.frame]
lemma pumping (same : before.StoreFrame after) : after.pumping = before.pumping := by rw [same.frame]
lemma config (same : before.StoreFrame after) : after.config = before.config := by rw [same.frame]
lemma schemas (same : before.StoreFrame after) : after.schemas = before.schemas := by rw [same.frame]
lemma correlations (same : before.StoreFrame after) :
    after.correlations = before.correlations := by
  rw [same.frame]

protected lemma refl (world : World) : world.StoreFrame world :=
  ⟨rfl, .refl _, fun _ h => absurd rfl h, List.prefix_refl _, id, [], rfl, by simp⟩

protected lemma trans (first : before.StoreFrame middle) (second : middle.StoreFrame after) :
    before.StoreFrame after where
  frame := by rw [second.frame, first.frame]
  store := first.store.trans second.store
  woken id changed actor mem := by
    by_cases early : middle.store.writeCount id = before.store.writeCount id
    · refine second.woken id (by rwa [early]) actor ?_
      rwa [Store.listeners_congr first.store.watches]
    · exact second.queued.subset (first.woken id early actor mem)
  queued := first.queued.trans second.queued
  calls none := second.calls (first.calls none)
  journal := by
    obtain ⟨new₁, eq₁, all₁⟩ := first.journal
    obtain ⟨new₂, eq₂, all₂⟩ := second.journal
    refine ⟨new₂ ++ new₁, by rw [eq₂, eq₁, List.append_assoc], fun note mem => ?_⟩
    exact (List.mem_append.1 mem).elim (all₂ note) (all₁ note)

end StoreFrame

/-- A note of a write or of a message. -/
lemma note_storeFrame (world : World) (note : Note) (ofStore : note.ofStore) :
    world.StoreFrame (world.note note) :=
  ⟨rfl, .refl _, fun _ h => absurd rfl h, List.prefix_refl _, id, [note], rfl, by simpa⟩

/-- Queueing an actor. -/
lemma schedule_storeFrame (world : World) (actor : Id) : world.StoreFrame (world.schedule actor) :=
  ⟨rfl, .refl _, fun _ h => absurd rfl h, world.ready.prefix_push actor, id, [], rfl, by simp⟩

/-- Making calls queues the actors called and notes the other calls. -/
lemma foldl_tell (calls : List Call) (world : World) :
    ∃ ready notified, calls.foldl tell world = { world with ready, notified } ∧
      world.ready.order <+: ready.order ∧
      ∀ actor, Listener.actor actor ∈ calls.map Call.listener → actor ∈ ready.order := by
  induction calls generalizing world with
  | nil => exact ⟨world.ready, world.notified, rfl, List.prefix_refl _, by simp⟩
  | cons call rest ih =>
    obtain ⟨ready, notified, eq, queued, called⟩ := ih (world.tell call)
    rw [List.foldl_cons, eq]
    cases listener : call.listener with
    | outside name =>
      simp only [tell, listener] at queued ⊢
      exact ⟨ready, notified, rfl, queued, by simpa [listener] using called⟩
    | actor actor =>
      simp only [tell, listener] at queued ⊢
      refine ⟨ready, notified, rfl, (world.ready.prefix_push actor).trans queued, ?_⟩
      intro other mem
      rw [List.map_cons, List.mem_cons, listener] at mem
      rcases mem with same | later
      · cases same
        exact queued.subset (world.ready.mem_push actor)
      · exact called other later

/-- Making the queued calls of a store. -/
lemma settle_eq (world : World) :
    ∃ ready notified,
      world.settle =
        { world with store := { world.store with calls := [] }, ready, notified } ∧
      world.ready.order <+: ready.order ∧
      ∀ actor, Listener.actor actor ∈ world.store.calls.map Call.listener →
        actor ∈ ready.order :=
  foldl_tell world.store.calls { world with store := { world.store with calls := [] } }

/-- Putting a store in place that some writes lead to. -/
lemma withStore_storeFrame {store : Store} (tells : world.store.CallsListeners store) :
    world.StoreFrame (world.withStore store) := by
  obtain ⟨ready, notified, eq, queued, called⟩ := settle_eq { world with store }
  obtain ⟨new, calls, told⟩ := tells.calls
  rw [withStore, eq]
  refine ⟨rfl, tells.clear, fun id changed actor mem => called actor ?_, queued, fun _ => rfl,
    [], rfl, by simp⟩
  simp only [calls, List.map_append, List.mem_append]
  exact .inr (told id changed _ mem)

@[simp] lemma withStore_store (world : World) (store : Store) :
    (world.withStore store).store = { store with calls := [] } := by
  obtain ⟨ready, notified, eq, -, -⟩ := settle_eq { world with store }
  rw [withStore, eq]

@[simp] lemma withStore_journal (world : World) (store : Store) :
    (world.withStore store).journal = world.journal := by
  obtain ⟨ready, notified, eq, -, -⟩ := settle_eq { world with store }
  rw [withStore, eq]

@[simp] lemma withStore_running (world : World) (store : Store) :
    (world.withStore store).running = world.running := by
  obtain ⟨ready, notified, eq, -, -⟩ := settle_eq { world with store }
  rw [withStore, eq]

lemma apply_storeFrame (world : World) (op : StoreOp) : world.StoreFrame (world.apply op).2 :=
  withStore_storeFrame (world.store.execute_callsListeners op)

lemma apply_journal (world : World) (op : StoreOp) :
    (world.apply op).2.journal = world.journal := withStore_journal _ _

lemma write_snd (world : World) (op : StoreOp) :
    (world.write op).2 = match world.store.written? op with
      | some object => (world.apply op).2.note (.wrote object op)
      | none => (world.apply op).2 := by
  unfold write
  dsimp only
  cases world.store.written? op <;> rfl

lemma write_storeFrame (world : World) (op : StoreOp) : world.StoreFrame (world.write op).2 := by
  have storeFrame := world.apply_storeFrame op
  rw [write_snd]
  split
  · exact storeFrame.trans (note_storeFrame _ _ rfl)
  · exact storeFrame

lemma make_storeFrame (world : World) (value : Json) : world.StoreFrame (world.make value).2 :=
  world.apply_storeFrame (.create value none)

lemma makeInbox_storeFrame (world : World) : world.StoreFrame world.makeInbox.2 :=
  (world.make_storeFrame _).trans (note_storeFrame _ _ rfl)

lemma own_storeFrame (world : World) (inbox owner : Id) :
    world.StoreFrame (world.own inbox owner).2 :=
  world.apply_storeFrame _

lemma wake_storeFrame (world : World) (actor : Id) : world.StoreFrame (world.wake actor) := by
  unfold wake
  split
  · exact world.schedule_storeFrame actor
  · exact .refl world

lemma mark_storeFrame (world : World) (message : Id) : world.StoreFrame (world.mark message) := by
  have storeFrame := world.apply_storeFrame (.update message (.obj [("processed", .bool true)]))
  unfold mark
  split <;> rename_i eq <;> rw [eq] at storeFrame
  · exact storeFrame.trans (note_storeFrame _ _ rfl)
  · exact storeFrame

lemma post_storeFrame (world : World) (target : Id) (message : Message) :
    world.StoreFrame (world.post target message).2 := by
  have stored := Inbox.post_callsListeners world.store (world.liveInbox? target) target message
  have storeFrame :=
    (world.note_storeFrame (.sent target message) rfl).trans (withStore_storeFrame stored)
  unfold post
  dsimp only
  split
  · exact (storeFrame.trans (note_storeFrame _ _ rfl)).trans (wake_storeFrame _ target)
  · exact storeFrame

/-! ## What a post notes -/

@[simp] lemma wake_journal (world : World) (actor : Id) :
    (world.wake actor).journal = world.journal := by
  unfold wake
  split <;> rfl

/-- A post notes that the message was sent, and then perhaps where it was listed. -/
lemma post_journal (world : World) (target : Id) (message : Message) :
    ∃ rest, (world.post target message).2.journal = rest ++ .sent target message :: world.journal ∧
      ∀ note ∈ rest, ∃ id inbox, note = .posted id inbox := by
  unfold post
  dsimp only
  split
  · rename_i id inbox _ _
    refine ⟨[.posted id inbox], ?_, by simp⟩
    rw [wake_journal]
    simp [note]
  · exact ⟨[], by simp [note], by simp⟩

/-! ## Moves of one running actor -/

lemma updateRunning_frame (world : World) (actor : Id) (change : Running → Running) :
    world.updateRunning actor change =
      { world with running := (world.updateRunning actor change).running } := by
  unfold updateRunning
  split <;> rfl

lemma find?_updateRunning (world : World) (actor other : Id) (change : Running → Running) :
    (world.updateRunning actor change).running.find? other =
      if actor = other then (world.running.find? other).map change
      else world.running.find? other := by
  unfold updateRunning
  split
  · rename_i running found
    rw [Table.find?_insert]
    split
    · rename_i same
      rw [← same, found]
      rfl
    · rfl
  · rename_i found
    split
    · rename_i same
      rw [← same, found]
      rfl
    · rfl

/-- Changing what is known of an actor in one way for all. -/
lemma find?_updateRunning_some {change : Running → Running} {running : Running}
    (found : (world.updateRunning actor change).running.find? other = some running) :
    ∃ old, world.running.find? other = some old ∧
      running = if actor = other then change old else old := by
  rw [find?_updateRunning] at found
  split at found
  · rename_i same
    obtain ⟨old, there, eq⟩ := Option.map_eq_some_iff.1 found
    exact ⟨old, there, by rw [if_pos same, eq]⟩
  · rename_i ne
    exact ⟨running, found, by rw [if_neg ne]⟩

section Update

variable (world : World) (actor : Id) (change : Running → Running)

@[simp] lemma updateRunning_store : (world.updateRunning actor change).store = world.store := by
  rw [updateRunning_frame]

@[simp] lemma updateRunning_ready : (world.updateRunning actor change).ready = world.ready := by
  rw [updateRunning_frame]

@[simp] lemma updateRunning_journal :
    (world.updateRunning actor change).journal = world.journal := by
  rw [updateRunning_frame]

lemma updateRunning_suffix : world.journal <:+ (world.updateRunning actor change).journal := by
  simp

@[simp] lemma updateRunning_config : (world.updateRunning actor change).config = world.config := by
  rw [updateRunning_frame]

@[simp] lemma updateRunning_schemas :
    (world.updateRunning actor change).schemas = world.schemas := by
  rw [updateRunning_frame]

@[simp] lemma updateRunning_pumping :
    (world.updateRunning actor change).pumping = world.pumping := by
  rw [updateRunning_frame]

@[simp] lemma updateRunning_pending :
    (world.updateRunning actor change).pending = world.pending := by
  rw [updateRunning_frame]

@[simp] lemma updateRunning_expired :
    (world.updateRunning actor change).expired = world.expired := by
  rw [updateRunning_frame]

@[simp] lemma updateRunning_correlations :
    (world.updateRunning actor change).correlations = world.correlations := by
  rw [updateRunning_frame]

end Update

/-- What an actor finds when it looks for its next entry. -/
def lookFor (world : World) (running : Running) (listed : List Id) : Inbox.Look :=
  Inbox.look world.store running.cursor (listed.drop running.cursor)

/-- What is noted of a look: what is passed over and what is taken, latest first. -/
def lookNotes (actor inbox : Id) (look : Inbox.Look) : List Note :=
  (look.next.map fun taken => Note.taken actor inbox taken.1 taken.2.1 taken.2.2).toList ++
    (look.passed.map fun skip =>
      Note.passed actor inbox skip.position skip.message skip.found).reverse

/-- What picking an entry does: the actor looks, its cursor moves, and what it found is noted. -/
lemma pick_eq (world : World) (actor : Id) (running : Running) (listed : List Id) :
    world.pick actor running listed = ((world.lookFor running listed).next,
      { world.updateRunning actor fun old =>
          { old with cursor := (world.lookFor running listed).cursor } with
        journal := lookNotes actor running.config.inbox (world.lookFor running listed) ++
          world.journal }) := by
  unfold pick lookFor lookNotes
  dsimp only
  split <;> rename_i next <;> simp only [next] <;> rfl

section Pick

variable (world : World) (actor : Id) (running : Running) (listed : List Id)

lemma pick_fst : (world.pick actor running listed).1 = (world.lookFor running listed).next := by
  rw [pick_eq]

lemma pick_frame : (world.pick actor running listed).2 = { world with
    running := (world.pick actor running listed).2.running
    journal := (world.pick actor running listed).2.journal } := by
  rw [pick_eq]
  dsimp only
  rw [updateRunning_frame]

lemma pick_store : (world.pick actor running listed).2.store = world.store := by rw [pick_frame]

lemma pick_ready : (world.pick actor running listed).2.ready = world.ready := by rw [pick_frame]

lemma find?_pick (other : Id) : (world.pick actor running listed).2.running.find? other =
    if actor = other then (world.running.find? other).map fun old =>
      { old with cursor := (world.lookFor running listed).cursor }
    else world.running.find? other := by
  rw [pick_eq]
  exact find?_updateRunning _ _ _ _

lemma pick_journal : (world.pick actor running listed).2.journal =
    lookNotes actor running.config.inbox (world.lookFor running listed) ++ world.journal := by
  rw [pick_eq]

end Pick

lemma taken_mem_lookNotes {inbox message : Id} {look : Inbox.Look} {position : Nat}
    {entry : Entry} (next : look.next = some (position, message, entry)) :
    Note.taken actor inbox position message entry ∈ lookNotes actor inbox look := by
  simp [lookNotes, next]

/-! ## Asks -/

/-- A reply settles the ask that its receiver waits for with its correlation, or nothing. -/
lemma acceptReply_cases (world : World) (receiver message : Id) (entry : Entry) :
    (world.acceptReply receiver message entry).2 = world ∨
      ∃ correlation ask, entry.correlation = some correlation ∧
        world.pending.find? correlation = some ask ∧ ask.asker = receiver ∧
        (entry.source = some receiver →
          entry.type = successEvent ∨ entry.type = errorEvent) ∧
        (world.acceptReply receiver message entry).2 = { world with
          pending := world.pending.erase correlation
          journal := .answered correlation receiver message :: world.journal } := by
  unfold acceptReply
  split
  · exact .inl rfl
  · rename_i correlation carried
    dsimp only
    split_ifs with own late waits
    · exact .inl rfl
    · exact .inl rfl
    · obtain ⟨ask, found, asker⟩ := Option.map_eq_some_iff.1 (eq_of_beq waits)
      refine .inr ⟨correlation, ask, carried, found, asker, fun source => ?_, rfl⟩
      simpa [source, or_iff_not_imp_left] using own
    · exact .inl rfl

end World

end Troupe
