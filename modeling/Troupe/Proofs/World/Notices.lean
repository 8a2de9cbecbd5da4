import Troupe.Proofs.Store.Effects
import Troupe.Proofs.World.Frames

/-!
# Who hears of a write

A store queues the calls that tell of its writes, and the runtime makes them at once: it queues
the actors that listen, and it calls those outside.  So an operation that takes effect is heard
of by everyone who listens to its object then, in the order in which they began to listen, and
one that does not is heard of by nobody.

## Main results

* `World.write_notifies`: what a write tells;
* `Store.execute_accounts`: operations are atomic, counted and told.
-/

namespace Troupe

/-- The actor that a call queues. -/
def Call.actor? (call : Call) : Option Id :=
  match call.listener with
  | .actor id => some id
  | .outside _ => none

namespace World

variable {world : World} {op : StoreOp} {answer : Json}

/-- Making calls queues the actors called, in order, and calls the others, in order. -/
lemma foldl_tell_eq (calls : List Call) (world : World) :
    calls.foldl tell world = { world with
      ready := (calls.filterMap Call.actor?).foldl ReadyQueue.push world.ready
      notified := world.notified ++ calls.filter fun call => call.actor?.isNone } := by
  induction calls generalizing world with
  | nil => simp
  | cons call rest ih =>
    rw [List.foldl_cons, ih]
    cases listener : call.listener with
    | actor id => simp [tell, schedule, Call.actor?, listener]
    | outside name => simp [tell, Call.actor?, listener]

lemma withStore_eq (world : World) (store : Store) : world.withStore store = { world with
    store := { store with calls := [] }
    ready := (store.calls.filterMap Call.actor?).foldl ReadyQueue.push world.ready
    notified := world.notified ++ store.calls.filter fun call => call.actor?.isNone } :=
  foldl_tell_eq store.calls _

/-- The calls that tell the listeners of an object of its value, null if it is gone. -/
def callsFor (world : World) (id : Id) (value : Option Json) : List Call :=
  (world.store.listeners id).map fun listener => ⟨listener, id, value.getD .null⟩

/-- What a store operation does to a runtime, and who hears of it. -/
structure Notifies (world : World) (op : StoreOp) : Prop where
  /-- One that is refused leaves everything as it is. -/
  refused : ∀ cause, (world.write op).1 = .error cause → (world.write op).2 = world
  /-- So does one that answers that it did nothing. -/
  idle : ∀ answer, (world.write op).1 = .ok answer → op.tookEffect answer = false →
    (world.write op).2 = world
  /-- Any other is noted, and the listeners of its object are told of the value that the
  operation leaves: the actors among them are queued, and the others are called, in order. -/
  told : ∀ answer, (world.write op).1 = .ok answer → op.tookEffect answer = true →
    let object := op.target world.store.supply.next
    let calls := world.callsFor object (op.leaves (world.store.read object))
    (world.write op).2 = { world with
      store := { (world.store.execute op).2 with calls := [] }
      ready := (calls.filterMap Call.actor?).foldl ReadyQueue.push world.ready
      notified := world.notified ++ calls.filter fun call => call.actor?.isNone
      journal := .wrote object op :: world.journal }

lemma write_fst (world : World) (op : StoreOp) :
    (world.write op).1 = (world.store.execute op).1 := by
  unfold write
  dsimp only
  split <;> rfl

/-- An operation that takes effect writes its target. -/
lemma written?_of_effect (effect : world.store.Effect op (world.store.execute op).2) :
    world.store.written? op = some (op.target world.store.supply.next) := by
  have counted := effect.count (op.target world.store.supply.next)
  rw [if_pos rfl] at counted
  -- the count of the target has grown, so it is the object that was written
  rcases world.store.execute_cases op with ⟨-, same⟩ | ⟨id, written, write⟩
  · rw [same] at counted
    omega
  · have target : op.target world.store.supply.next = id := by
      by_contra ne
      rw [write.count, if_neg ne] at counted
      omega
    rw [written, target]

/-- If the store stays as it is and no call is left to be made, so does the runtime. -/
lemma write_of_same (made : world.store.calls = [])
    (same : (world.store.execute op).2 = world.store) : (world.write op).2 = world := by
  have none : world.store.written? op = none := by
    rcases world.store.execute_cases op with ⟨none, -⟩ | ⟨id, -, write⟩
    · exact none
    · have counted := write.count id
      rw [same, if_pos rfl] at counted
      omega
  rw [write_snd, none, apply]
  dsimp only
  rw [withStore_eq, same, made]
  obtain ⟨config, ⟨⟩⟩ := world
  cases made
  simp

/-- Who hears of a store operation. -/
theorem write_notifies (op : StoreOp) (made : world.store.calls = []) : world.Notifies op where
  refused cause refused := by
    rw [write_fst] at refused
    exact write_of_same made (Store.execute_error refused)
  idle answer done none := by
    rw [write_fst] at done
    rcases Store.apply_cases (Store.execute_ok done) with ⟨some, -⟩ | ⟨-, -, same⟩
    · rw [none] at some
      cases some
    · exact write_of_same made same
  told answer done some := by
    rw [write_fst] at done
    rcases Store.apply_cases (Store.execute_ok done) with ⟨-, -, effect⟩ | ⟨none, -⟩
    · have calls := effect.calls
      rw [made, List.nil_append, effect.value] at calls
      rw [write_snd, written?_of_effect effect, apply]
      dsimp only
      rw [withStore_eq, calls]
      rfl
    · rw [some] at none
      cases none

end World

/-- A store operation that is refused changes nothing and is told to nobody; nor does one that
finds nothing to do, a create whose key leads to an object or a delete of an object that is not
there.  Any other writes one object, the one that it names or makes, which is not protected:
its count goes up by one, and everyone who listens to it is told once of its new value.  Over
any number of operations the count of an object is the number of those that took effect on it. -/
theorem Store.execute_accounts (store : Store) (op : StoreOp)
    (fresh : store.supply.next ∉ store.locked) :
    store.Atomic op ∧
    (∀ supply image deeds, store = (ofImage supply image).runAll deeds →
      ∀ id, store.writeCount id = ((ofImage supply image).effects deeds).count id) ∧
    ∀ world : World, world.store = store → store.calls = [] → world.Notifies op := by
  refine ⟨execute_atomic op fresh, ?_, ?_⟩
  · rintro supply image deeds rfl id
    have built : (ofImage supply image).writeCount id = 0 := rfl
    rw [writeCount_runAll, built, Nat.zero_add]
  · rintro world rfl made
    exact World.write_notifies op made

namespace Sample

/-- A store whose one object has two listeners, to be told of what is done with it. -/
def watched : Store :=
  (Store.ofImage ⟨.ofNat, 1⟩ ⟨Table.ofList [(.ofNat 0, .empty)], ∅⟩).runAll
    [.subscribe (.ofNat 0) (.outside "first"), .subscribe (.ofNat 0) (.actor (.ofNat 7)),
      .execute (.push (.ofNat 0) "list" .null), .makeCalls]

end Sample

/-- Two listeners are told of a push, one after the other. -/
theorem Store.push_accounts :
    Sample.watched.supply.next ∉ Sample.watched.locked ∧
    Sample.watched.writeCount (.ofNat 0) = 1 ∧
    (World.new {} Sample.watched ⟨.ofNat, 0⟩ ⟨0, 0⟩).Notifies (.push (.ofNat 0) "list" .null) ∧
    ((Sample.watched.execute (.push (.ofNat 0) "list" .null)).2.calls.map Call.listener =
      [.outside "first", .actor (.ofNat 7)]) ∧
    Sample.watched.Effect (.push (.ofNat 0) "list" .null)
      (Sample.watched.execute (.push (.ofNat 0) "list" .null)).2 := by
  have fresh : Sample.watched.supply.next ∉ Sample.watched.locked := by decide +kernel
  obtain ⟨atomic, counted, notifies⟩ :=
    Store.execute_accounts Sample.watched (.push (.ofNat 0) "list" .null) fresh
  obtain ⟨answer, done⟩ : ∃ answer,
      (Sample.watched.execute (.push (.ofNat 0) "list" .null)).1 = .ok answer := by
    cases ran : (Sample.watched.execute (.push (.ofNat 0) "list" .null)).1 with
    | ok answer => exact ⟨answer, rfl⟩
    | error cause =>
      have refused : (Sample.watched.execute (.push (.ofNat 0) "list" .null)).1.isOk = true := by
        decide +kernel
      rw [ran] at refused
      cases refused
  refine ⟨fresh, ?_, notifies _ rfl rfl, by decide +kernel, atomic.effect answer done rfl⟩
  rw [counted _ _ _ rfl]
  decide +kernel

end Troupe
