import Troupe.Proofs.World.Creations
import Troupe.Proofs.World.Mail

/-!
# Messages that are delivered twice

An actor may be handed a message a second time: it was stopped, or the runtime began anew, before
the message was marked.  Whatever its second pass does, the objects that the first one created are
not created again, because the creates of both have the same keys in the same order, and the keys
still lead to them.

## Main results

* `World.Moves.led`: a key leads to its object until the object is deleted;
* `Engine.Delivery.creates_once`: what the creates of two deliveries have to do with each other;
* `create_found_after_break_off`: a pass that is broken off, and one that goes another way.
-/

namespace Troupe

namespace World

variable {before middle after : World} {key : String} {object : Id}

/-- An object was deleted between two states. -/
def Deletes (object : Id) (before after : World) : Prop :=
  ∃ notes, after.journal = notes ++ before.journal ∧ Note.wrote object (.delete object) ∈ notes

/-- What is deleted between two states is deleted between earlier and later ones. -/
lemma Deletes.mono {first last : World} (deletes : Deletes object before after)
    (earlier : first.journal <:+ before.journal) (later : after.journal <:+ last.journal) :
    Deletes object first last := by
  obtain ⟨notes, eq, mem⟩ := deletes
  obtain ⟨prior, eq₁⟩ := earlier
  obtain ⟨posterior, eq₂⟩ := later
  exact ⟨posterior ++ notes ++ prior, by simp [← eq₂, eq, ← eq₁], by simp [mem]⟩

/-! ## Keys go on leading to their objects -/

lemma led_withStore {world : World} {store : Store} (led : store.Led key object) :
    (world.withStore store).store.Led key object := by
  rw [withStore_store]
  exact ⟨led.found, led.there⟩

lemma led_apply {world : World} (led : world.store.Led key object) {op : StoreOp}
    (other : op ≠ .delete object) : (world.apply op).2.store.Led key object :=
  led_withStore (led.execute other)

/-- Only a delete that is noted keeps a key from leading to its object. -/
lemma led_write {world : World} (led : world.store.Led key object) (op : StoreOp)
    (kept : ¬ Deletes object world (world.write op).2) :
    (world.write op).2.store.Led key object := by
  rw [write_snd] at kept ⊢
  cases written : world.store.written? op with
  | none =>
    rcases world.store.execute_cases op with ⟨-, same⟩ | ⟨id, some, -⟩
    · exact led_withStore (same.symm ▸ led)
    · rw [written] at some
      cases some
  | some id =>
    rw [written] at kept
    refine led_apply led fun same => kept ?_
    obtain rfl := Store.eq_of_written?_delete (same ▸ written)
    exact ⟨[.wrote id op], congrArg _ (apply_journal world op), by simp [same]⟩

lemma led_make {world : World} (led : world.store.Led key object) (value : Json) :
    (world.make value).2.store.Led key object :=
  led_apply led (by simp : StoreOp.create value none ≠ .delete object)

lemma led_post {world : World} (led : world.store.Led key object) (target : Id)
    (message : Message) : (world.post target message).2.store.Led key object := by
  have made : (Inbox.withMessage world.store target message).Led key object :=
    led.execute (by simp : StoreOp.create _ none ≠ .delete object)
  rcases world.post_cases target message with
    ⟨inbox, answer, store, -, pushed, stored, -⟩ | ⟨store, either, done⟩
  · have push : (Inbox.withMessage world.store target message).execute (.push inbox
        Inbox.entriesField (.id world.store.supply.next)) = (.ok answer, store) := by
      simp only [Store.execute, Store.apply, pushed]
    have listed := made.execute (by simp : StoreOp.push inbox Inbox.entriesField
      (.id world.store.supply.next) ≠ .delete object)
    rw [push] at listed
    rw [stored]
    exact ⟨listed.found, listed.there⟩
  · rw [done]
    rcases either with rfl | rfl
    · exact led_withStore led
    · exact led_withStore made

lemma led_mark {world : World} (led : world.store.Led key object) (message : Id) :
    (world.mark message).store.Led key object := by
  have applied := led_apply led
    (by simp : StoreOp.update message (.obj [("processed", .bool true)]) ≠ .delete object)
  unfold mark
  split <;> rename_i eq <;> rwa [eq] at applied

lemma Step.led (step : Step before after) (led : before.store.Led key object)
    (kept : ¬ Deletes object before after) : after.store.Led key object := by
  cases step with
  | write op => exact led_write led op kept
  | post target message => exact led_post led target message
  | mark handles => exact led_mark led _
  | tools | render | pump | skip | ask => exact led
  | remember => rwa [World.remember, updateRunning_store]
  | accept => rwa [acceptReply_store]
  | pass => rwa [pick_store]
  | take => rwa [World.turnTo, updateRunning_store, pick_store]
  | finish =>
    split
    · rwa [World.schedule, World.turnTo, updateRunning_store]
    · rwa [World.turnTo, updateRunning_store]
  | started => rwa [World.schedule, World.turnTo, updateRunning_store]
  | enlist =>
    rw [World.turnTo, updateRunning_store]
    exact ⟨led.found, led.there⟩

lemma Order.led (order : Order before after) (led : before.store.Led key object) :
    after.store.Led key object := by
  cases order with
  | makeInbox => exact led_make led _
  | make value => exact led_make led value
  | own made owner => exact led_apply led (by simp : StoreOp.update _ _ ≠ .delete object)
  | unwatch token =>
    obtain ⟨watches, same⟩ := before.unwatch_frame token
    rw [same]
    exact ⟨led.found, led.there⟩
  | restart config restored =>
    obtain ⟨store, reloaded, rfl⟩ := restore?_some restored
    exact led.reload reloaded
  | schedule | dismiss | timeOut | track | protect | watch | registerSchema | setTools | onRerender
    | setTime => exact ⟨led.found, led.there⟩

lemma Move.led (move : Move before after) (led : before.store.Led key object)
    (kept : ¬ Deletes object before after) : after.store.Led key object := by
  rcases move with (step | ⟨-, -⟩ | ⟨-, -⟩) | order
  · exact step.led led kept
  · rwa [turnTo, updateRunning_store]
  · exact led
  · exact order.led led

/-- Whatever moves, a key leads to its object until the object is deleted. -/
theorem Moves.led (moves : Moves before after) (led : before.store.Led key object)
    (kept : ¬ Deletes object before after) : after.store.Led key object := by
  induction moves with
  | refl => exact led
  | tail moves move ih =>
    have early := ih fun deletes => kept (deletes.mono (List.suffix_refl _) move.suffix)
    exact move.led early fun deletes =>
      kept (deletes.mono (Moves.suffix moves) (List.suffix_refl _))

end World

open World

namespace Creation

variable {made repeated : Creation} {key other : String}

/-- A create with a key gives an object, which the key leads to from then on. -/
lemma exists_led (keyed : made.key = some key) :
    ∃ object new, made.answer = .ok (Store.created object new) ∧
      made.after.store.Led key object := by
  obtain ⟨object, new, answer, led⟩ := Store.Led.of_create made.world.store made.value key
  rw [← keyed] at answer led
  refine ⟨object, new, answer, ?_⟩
  rw [made.after_store]
  exact ⟨led.found, led.there⟩

/-- A create whose key leads to an object finds it. -/
lemma finds_of_led {object : Id} (keyed : repeated.key = some key)
    (led : repeated.world.store.Led key object) : repeated.Finds object := by
  rw [Finds, op, keyed]
  exact led.again _

/-- A create does not change where another key leads. -/
lemma find?_keys_after (keyed : made.key = some key) (ne : key ≠ other) :
    made.after.store.keys.find? other = made.world.store.keys.find? other := by
  rw [made.after_store]
  have same := made.world.store.find?_keys_create made.value ne
  rwa [← keyed] at same

end Creation

namespace Engine.Delivery

variable {world after again last : World} {actor other message message' : Id}
variable {creates repeats : List Creation}

/-- **Creates are carried out once.**  An actor is handed a message and carries out some creates.
If the same message is delivered again, whatever has happened meanwhile and whatever the second
pass does, its creates give the objects that the creates of the first delivery have given, each
the one of the same number, and leave the store as it is, unless the object was deleted.  If
another message is delivered, whose key is another one, its creates have other keys than those of
the first: none of them changes where a key of the other leads. -/
theorem creates_once {depth depth' : Nat}
    (delivery : (engine depth).Delivery world actor message creates after)
    (redelivery : (engine depth').Delivery again other message' repeats last) :
    (message' = message → Moves after again → ∀ (i : Nat) (made repeated : Creation),
      creates[i]? = some made → repeats[i]? = some repeated →
      ∃ object new, made.answer = .ok (Store.created object new) ∧
        (¬ Deletes object made.after repeated.world → repeated.Finds object)) ∧
    (messageKey message' ≠ messageKey message → ∀ made ∈ creates, ∀ repeated ∈ repeats,
      ∃ key key', made.key = some key ∧ repeated.key = some key' ∧ key ≠ key' ∧
        made.after.store.keys.find? key' = made.world.store.keys.find? key' ∧
        repeated.after.store.keys.find? key = repeated.world.store.keys.find? key) := by
  refine ⟨?_, fun ne made mem repeated mem' => ?_⟩
  · rintro rfl moves i made repeated at_ at_'
    obtain ⟨-, stepsOrBreaks⟩ := delivery.within (engine_bySteps depth) at_
    obtain ⟨steps, -⟩ := redelivery.within (engine_bySteps depth') at_'
    have between : Moves made.after repeated.world :=
      ((StepsOrBreaks.moves stepsOrBreaks).trans moves).trans
        (StepsOrBreaks.moves (Steps.stepsOrBreaks steps))
    -- both creates have the key of the message with the same number
    obtain ⟨object, new, answer, led⟩ := made.exists_led (delivery.key at_)
    refine ⟨object, new, answer, fun kept => ?_⟩
    exact repeated.finds_of_led (redelivery.key at_') (Moves.led between led kept)
  · obtain ⟨i, at_⟩ := List.mem_iff_getElem?.1 mem
    obtain ⟨j, at_'⟩ := List.mem_iff_getElem?.1 mem'
    have key := delivery.key at_
    have key' := redelivery.key at_'
    have other : numberedKey (messageKey message) i ≠ numberedKey (messageKey message') j :=
      fun same => ne (numberedKey_eq same).symm
    exact ⟨_, _, key, key', other, made.find?_keys_after key other,
      repeated.find?_keys_after key' other.symm⟩

end Engine.Delivery

/-! ## A message that is delivered twice -/

/-- Whether the next actor in the queue is handed a message and carries out some creates, the first
of which passes a test, as does the state when the turn has ended. -/
def handsOver (depth : Nat) (actor message : Id) (test : Creation → Bool) (rest : World → Bool)
    (world : World) : Bool :=
  match world.ready.pop? with
  | none => false
  | some (next, ready) =>
    next == actor &&
    (match (engine depth).turnCreations actor { world with ready } with
      | some (handed, first :: _) => handed == message && test first
      | _ => false) &&
    (match (engine depth).handleNext actor { world with ready } with
      | .ok _ after => rest after
      | .error _ after => rest after)

lemma Engine.exists_of_handsOver {depth : Nat} {actor message : Id} {test : Creation → Bool}
    {rest : World → Bool} {world : World}
    (hands : handsOver depth actor message test rest world) :
    ∃ first more after, (engine depth).Delivery world actor message (first :: more) after ∧
      test first ∧ rest after := by
  unfold handsOver at hands
  split at hands
  · cases hands
  · rename_i next ready popped
    simp only [Bool.and_eq_true, beq_iff_eq] at hands
    obtain ⟨⟨rfl, turn⟩, ended⟩ := hands
    split at turn
    · rename_i first more created
      simp only [Bool.and_eq_true, beq_iff_eq] at turn
      obtain ⟨rfl, tested⟩ := turn
      split at ended
      · rename_i rerender after ran
        exact ⟨first, more, after, ⟨ready, popped, created, .inl ⟨rerender, ran⟩⟩, tested, ended⟩
      · rename_i halt after ran
        exact ⟨first, more, after, ⟨ready, popped, created, .inr ⟨halt, ran⟩⟩, tested, ended⟩
    · cases turn

namespace Sample

/-- A runtime with a process that creates one object if its context tells something, and in any
case another one, and then runs a tool.  A message waits for it. -/
def making : World :=
  World.new {} (Store.ofImage ⟨.ofNat, 20⟩ ⟨Table.ofList
    [(.ofNat 1, .obj [("entries", .arr [.id (.ofNat 4)])]), (.ofNat 2, .empty),
      (actor, (ActorConfig.toJson ⟨["GO"], .ofNat 1, .ofNat 2,
        .record [("kind", .str "process"), ("handlers", .record [("GO", .arr
          [.record [("guard", .record [("schema", .record [("required", .arr [.str "told"])])])],
            .record [("op", .record [("create", .record [("again", .bool true)])])],
            .record [("guard", .bool true)],
            .record [("op", .record [("create", .record [("first", .bool true)])])],
            .record [("invoke", .record [("target", .id (.ofNat 10)), ("payload", .empty)])]])])],
        none, ∅, Table.ofList [("GO", .bool true)]⟩)),
      (.ofNat 4, (Entry.pending actor { type := "GO", payload := .empty }).toJson),
      (.ofNat 10, (ActorConfig.toJson ⟨[], .ofNat 11, .ofNat 12,
        .record [("kind", .str "process")], some "bang", ∅, ∅⟩))], ∅⟩)
    ⟨.ofNat, 0⟩ ⟨0, 1000⟩

/-- Whether nothing was deleted. -/
def deletesNothing (world : World) : Bool :=
  !world.journal.any fun
    | .wrote _ (.delete _) => true
    | _ => false

/-- Whether the process is handed the message, and again after its tool has broken off, when its
context has been changed and it has been started once more. -/
def handsOverTwice : Bool :=
  Command.allReturn 2 [.setTools (ToolRegistry.register {} bang), .start actor]
    (handsOver 2 actor (.ofNat 4) (fun made => (made.value.field? "first").isSome) fun after =>
      Command.allReturn 2 [.stop actor, .setTools {},
          .execute (.update (.ofNat 2) (.record [("told", .bool true)])), .start actor]
        (handsOver 2 actor (.ofNat 4) (fun made =>
          (made.value.field? "again").isSome && deletesNothing made.world) fun _ => true) after)
    making

end Sample

lemma Sample.deletesNothing_not_deletes {object : Id} {before after : World}
    (nothing : deletesNothing after) : ¬ Deletes object before after := by
  rintro ⟨notes, eq, mem⟩
  simp only [deletesNothing, Bool.not_eq_true', List.any_eq_false] at nothing
  exact nothing _ (eq ▸ List.mem_append_left _ mem) rfl

/-- A process creates an object, and the tool that it runs then breaks off.  When it is handed the
message again it begins with another create, since its context has been changed, and this gives the
object that is there. -/
theorem create_found_after_break_off :
    ∃ world after again last first second more more' object new,
      Session Sample.making world ∧
      (engine 2).Delivery world Sample.actor (.ofNat 4) (first :: more) after ∧
      Moves after again ∧
      (engine 2).Delivery again Sample.actor (.ofNat 4) (second :: more') last ∧
      (first.value.field? "first").isSome ∧ (second.value.field? "again").isSome ∧
      first.answer = .ok (Store.created object new) ∧ second.Finds object := by
  have twice : Sample.handsOverTwice = true := by decide +kernel
  obtain ⟨world, session, hands⟩ := Session.exists_of_allReturn 2 _ _ .first twice
  obtain ⟨first, more, after, delivery, made, returned⟩ := Engine.exists_of_handsOver hands
  obtain ⟨again, later, hands⟩ := Session.exists_of_allReturn 2 _ _ .first returned
  obtain ⟨second, more', last, redelivery, repeated, -⟩ := Engine.exists_of_handsOver hands
  rw [Bool.and_eq_true] at repeated
  -- whoever awaits an answer runs when the second session begins, so it goes by moves
  have ended := (session.moves (AskersRun.first _ _ _ _)).1.trans
    (StepsOrBreaks.moves (delivery.stepsOrBreaks (engine_bySteps 2)))
  have moves := (later.moves ((AskersRun.first _ _ _ _).moves ended)).1
  obtain ⟨object, new, answer, found⟩ :=
    (Engine.Delivery.creates_once delivery redelivery).1 rfl moves 0 first second rfl rfl
  exact ⟨world, after, again, last, first, second, more, more', object, new, session, delivery,
    moves, redelivery, made, repeated.1, answer,
    found (Sample.deletesNothing_not_deletes repeated.2)⟩

end Troupe
