import Troupe.Proofs.Pass.Creates
import Troupe.Proofs.Store.Keys
import Troupe.Proofs.World.Keeps
import Troupe.Proofs.World.Moves
import Troupe.Proofs.World.Notices

/-!
# The creates of a delivery

When an actor is handed a message, its behavior creates objects, or the message is a mutation that
creates one.  `Engine.creations` and its companions tell which creates are carried out, and in
which states: they follow the pass as the runtime runs it, up to its end or to where it halts.
What tools create is not among them.

## Main results

* `Engine.Delivery.key`: the creates of a delivery have the keys of their numbers;
* `Engine.Delivery.within`: each of them is a step on the way from the beginning of the delivery to
  its end.
-/

namespace Troupe

open World

/-- A create that is carried out. -/
structure Creation where
  /-- The state in which it is. -/
  world : World
  /-- The value of the object. -/
  value : Json
  /-- The key. -/
  key : Option String

namespace Creation

/-- The store operation. -/
def op (creation : Creation) : StoreOp := .create creation.value creation.key

/-- What it answers. -/
def answer (creation : Creation) : Except StoreError Json :=
  (creation.world.store.execute creation.op).1

/-- The state after it. -/
def after (creation : Creation) : World := (creation.world.write creation.op).2

/-- It gives an object that is there, and leaves the store as it is. -/
def Finds (creation : Creation) (object : Id) : Prop :=
  creation.world.store.execute creation.op =
    (.ok (Store.created object false), creation.world.store)

/-- It is a step on the way from a state to a result. -/
def Within {α : Type} (creation : Creation) (world : World) (result : EStateM.Result Halt World α) :
    Prop :=
  Steps world creation.world ∧ creation.after.Reaches StepsOrBreaks StepsOrBreaks result

lemma after_store (creation : Creation) : creation.after.store =
    { (creation.world.store.execute creation.op).2 with calls := [] } := by
  rw [after, write_snd]
  split <;> exact withStore_store _ _

end Creation

/-- A create is never refused. -/
lemma World.write_create (world : World) (value : Json) (key : Option String) :
    (world.write (.create value key)).1 = .ok (world.store.create value key).1 :=
  write_fst world _

lemma World.Ends.reaches {α : Type} {world : World} {result : EStateM.Result Halt World α}
    (ends : world.Ends result) : world.Reaches StepsOrBreaks StepsOrBreaks result := by
  cases result with
  | ok => exact Steps.stepsOrBreaks ends.1
  | error => exact ends.1

namespace Engine

variable {α β : Type}

/-- The creates that follow a call; none do if the call halts. -/
def following (rest : β → World → List Creation) : EStateM.Result Halt World β → List Creation
  | .ok answer after => rest answer after
  | .error _ _ => []

/-- The creates that a pass carries out, in order. -/
def creations (engine : Engine) (actor : Id) : Pass α → World → List Creation
  | .done _, _ => []
  | .read id next, world => engine.creations actor (next (world.store.read id)) world
  | .execute (.create value key) next, world =>
    let (answer, after) := world.write (.create value key)
    ⟨world, value, key⟩ :: engine.creations actor (next answer) after
  | .execute op next, world =>
    let (answer, after) := world.write op
    engine.creations actor (next answer) after
  | .callTool name view payload next, world =>
    following (fun answer => engine.creations actor (next answer))
      (engine.callTool name view payload world)
  | .deliver target message next, world =>
    following (fun answer => engine.creations actor (next (answer.mapError ActionError.ofRuntime)))
      (engine.post target message world)
  | .interfaceOf target next, world =>
    engine.creations actor (next (world.interfaceOf target)) world
  | .registerAsk asker target event next, world =>
    let (correlation, after) := world.registerAsk asker target event
    engine.creations actor (next correlation) after
  | .invoke target payload next, world =>
    following (fun answer => engine.creations actor (next answer))
      (engine.invoke target payload world)
  | .remember memory next, world => engine.creations actor next (world.remember actor memory)

/-- The creates that the handling of an entry carries out: those of a pass, or that of a
mutation. -/
def entryCreations (engine : Engine) (id : Id) (running : Running) (message : Id) (entry : Entry)
    (world : World) : List Creation :=
  match Inbox.validate world.schemas world.config.mutationEvent ⟨id, running.config⟩ message
    entry.type entry.payload with
  | .invalid _ => []
  | .valid payload =>
    if entry.type = world.config.mutationEvent then
      match StoreOp.ofJson? payload with
      | some (.create value key) => [⟨world, value, key⟩]
      | _ => []
    else
      let (accepted, after) := world.acceptReply id message entry
      if accepted then
        engine.creations id (running.behavior.send ⟨id, running.config⟩ running.memory
          ⟨entry.type, payload, entry.source, entry.correlation⟩) after
      else []

/-- The message that an actor is handed in its turn, with the creates that its handling carries
out. -/
def turnCreations (engine : Engine) (id : Id) (world : World) : Option (Id × List Creation) :=
  match world.running.find? id with
  | none => none
  | some running =>
    if running.activity ≠ .idle then none
    else
      let listed := Inbox.listed world.store running.config.inbox
      let (taken, after) := world.pick id running listed
      taken.map fun (_, message, entry) => (message, engine.entryCreations id running message entry
        (after.turnTo id (.handling listed.length)))

/-- The next actor in the queue is handed a message; its turn carries out some creates and ends,
returned or halted. -/
def Delivery (engine : Engine) (world : World) (actor message : Id) (creates : List Creation)
    (after : World) : Prop :=
  ∃ ready, world.ready.pop? = some (actor, ready) ∧
    engine.turnCreations actor { world with ready } = some (message, creates) ∧
    ((∃ rerender, engine.handleNext actor { world with ready } = .ok rerender after) ∨
      ∃ halt, engine.handleNext actor { world with ready } = .error halt after)

/-! ## Keys -/

end Engine

namespace Inbox

variable {message : Id} {payload : Json}

/-- A create that an actor is handed as a mutation has the key of its message. -/
lemma key_of_mutation {value : Json} {key : Option String}
    (read : StoreOp.ofJson? (keyed message payload) = some (.create value key)) :
    key = some (messageKey message) := by
  have key? := field?_keyed message payload
  obtain ⟨fields, eq⟩ : ∃ fields, keyed message payload = .obj fields := ⟨_, rfl⟩
  rw [eq] at read key?
  simp only [StoreOp.ofJson?, Option.bind_eq_bind, Option.bind_eq_some_iff] at read
  obtain ⟨name, -, read⟩ := read
  split at read
  · simp only [Json.named?, Option.bind_some, Option.bind_eq_some_iff, Option.pure_def,
      Option.some.injEq, StoreOp.create.injEq] at read
    obtain ⟨_, -, _, keyRead, -, rfl⟩ := read
    rw [keyField] at key?
    rw [Json.optional?, key?] at keyRead
    exact (Option.some.inj keyRead).symm
  all_goals simp [Json.named?, Option.bind_eq_some_iff] at read

end Inbox

namespace Engine

variable {α β : Type}

variable {engine : Engine} {actor message : Id} {running : Running} {entry : Entry}
variable {world after : World} {creation : Creation} {creates : List Creation}

/-- What follows a call follows one that returns. -/
lemma exists_of_following {rest : β → World → List Creation} {result : EStateM.Result Halt World β}
    {i : Nat} (mem : (following rest result)[i]? = some creation) :
    ∃ answer middle, result = .ok answer middle ∧ (rest answer middle)[i]? = some creation := by
  cases result with
  | ok answer middle => exact ⟨answer, middle, rfl, mem⟩
  | error halt middle => simp [following] at mem

/-- The creates of a pass whose creates are numbered have the keys of their numbers. -/
lemma creations_key {key : Nat → Option String} {Q : α → Nat → Prop} {pass : Pass α} {count i : Nat}
    (numbers : pass.Numbers key Q count)
    (mem : (engine.creations actor pass world)[i]? = some creation) :
    creation.key = key (count + i) := by
  induction pass generalizing world count i with
  | done => simp [creations] at mem
  | execute op next ih =>
    cases op with
    | create value used =>
      cases i with
      | zero =>
        obtain rfl := Option.some.inj mem
        exact numbers.1
      | succ i =>
        -- a create is never refused, so what follows it goes on with the next number
        have rest : (engine.creations actor (next (world.write (.create value used)).1)
          (world.write (.create value used)).2)[i]? = some creation := mem
        rw [write_create] at rest
        have key := ih _ (numbers.2 _) rest
        rwa [Nat.add_assoc, Nat.add_comm 1] at key
    | _ => exact ih _ (numbers _) mem
  | remember memory next ih => exact ih numbers mem
  | read | interfaceOf | registerAsk => rename_i ih; exact ih _ (numbers _) mem
  | callTool | deliver | invoke =>
    rename_i ih
    obtain ⟨answer, middle, -, mem⟩ := exists_of_following mem
    exact ih _ (numbers _) mem

/-- What is on the way from the end of a first part is on the way from its beginning. -/
lemma within_bind {first : Run β} {next : β → Run α} {answer : β} {middle : World}
    (ran : first world = .ok answer middle) (steps : Steps world middle)
    (within : creation.Within middle (next answer middle)) :
    creation.Within world ((first >>= next) world) := by
  rw [Run.bind_of_ok ran]
  exact ⟨steps.trans within.1, within.2⟩

/-- The creates of a pass are steps on the way from its beginning to its end. -/
lemma creations_within (bySteps : engine.BySteps) {pass : Pass α} (asks : pass.AsksAs actor)
    (runs : world.running.contains actor) {i : Nat}
    (mem : (engine.creations actor pass world)[i]? = some creation) :
    creation.Within world (engine.runPass actor pass world) := by
  induction pass generalizing world i with
  | done => simp [creations] at mem
  | read id next ih => exact ih _ (asks.2 _) runs mem
  | interfaceOf target next ih => exact ih _ (asks.2 _) runs mem
  | execute op next ih =>
    have wrote : (modifyGet fun world => world.write op : Run _) world =
      .ok (world.write op).1 (world.write op).2 := rfl
    have step := Step.write world op
    have still := (world.write_storeFrame op).nests.contains runs
    cases op with
    | create value used =>
      cases i with
      | zero =>
        obtain rfl := Option.some.inj mem
        exact ⟨.refl, (runPass_bySteps bySteps _ (asks.2 _) _ still : World.BySteps _ _).reaches⟩
      | succ i => exact within_bind wrote (.single step) (ih _ (asks.2 _) still mem)
    | _ => exact within_bind wrote (.single step) (ih _ (asks.2 _) still mem)
  | remember memory next ih =>
    have nests := remember_nests world actor memory
    have remembered : (modify fun world => world.remember actor memory : Run Unit) world =
      .ok () (world.remember actor memory) := rfl
    exact within_bind remembered (.single (.remember world actor memory))
      (ih asks.2 (nests.contains runs) mem)
  | registerAsk asker target event next ih =>
    obtain rfl : asker = actor := asks.1
    have nests := registerAsk_nests world asker target event
    have asked : (modifyGet fun world => world.registerAsk asker target event : Run _) world =
      .ok (world.registerAsk asker target event).1 (world.registerAsk asker target event).2 := rfl
    exact within_bind asked (.single (.ask target event runs))
      (ih _ (asks.2 _) (nests.contains runs) mem)
  | callTool name view payload next ih =>
    obtain ⟨answer, middle, ran, mem⟩ := exists_of_following mem
    obtain ⟨steps, nests⟩ := (callTool_bySteps bySteps name view payload world).ok ran
    exact within_bind ran steps (ih _ (asks.2 _) (nests.contains runs) mem)
  | deliver target message next ih =>
    obtain ⟨answer, middle, ran, mem⟩ := exists_of_following mem
    obtain ⟨steps, nests⟩ := (post_bySteps bySteps target message world).ok ran
    exact within_bind ran steps (ih _ (asks.2 _) (nests.contains runs) mem)
  | invoke target payload next ih =>
    obtain ⟨answer, middle, ran, mem⟩ := exists_of_following mem
    obtain ⟨steps, nests⟩ := (invoke_bySteps bySteps target payload world).ok ran
    exact within_bind ran steps (ih _ (asks.2 _) (nests.contains runs) mem)

/-! ## Entries -/

/-- The creates of an entry have the key of its message and their numbers. -/
lemma entryCreations_key {i : Nat}
    (mem : (engine.entryCreations actor running message entry world)[i]? = some creation) :
    creation.key = some (numberedKey (messageKey message) i) := by
  unfold entryCreations at mem
  split at mem
  · simp at mem
  · rename_i payload valid
    obtain ⟨-, -, rfl⟩ := Inbox.validate_valid valid
    split at mem
    · split at mem
      · rename_i value key read
        cases i with
        | zero =>
          obtain rfl := Option.some.inj mem
          exact Inbox.key_of_mutation read
        | succ i => simp at mem
      · simp at mem
    · dsimp only at mem
      split at mem
      · have key := creations_key (running.behavior.send_numbers _ _ _) mem
        rwa [Inbox.key?_keyed, Nat.zero_add] at key
      · simp at mem

/-- What is on the way to the end of a first part is on the way to the end of what follows. -/
lemma within_then {first : Run β} {next : β → Run α} (within : creation.Within world (first world))
    (goesOn : ∀ answer middle, first world = .ok answer middle →
      World.BySteps (next answer) middle) : creation.Within world ((first >>= next) world) := by
  refine ⟨within.1, ?_⟩
  have reaches := within.2
  cases ran : first world with
  | ok answer middle =>
    have rest := (goesOn answer middle ran : middle.Ends _).reaches
    rw [ran] at reaches
    rw [Run.bind_of_ok ran]
    cases ended : next answer middle <;> rw [ended] at rest <;> exact reaches.trans rest
  | error halt middle =>
    rw [ran] at reaches
    rwa [Run.bind_of_error ran]

/-- A mutation that asks for a create carries it out, and that is all. -/
lemma applyMutation_create {payload value : Json} {key : Option String}
    (read : StoreOp.ofJson? payload = some (.create value key)) (world : World) :
    engine.applyMutation actor entry payload world =
      .ok () (world.write (.create value key)).2 := by
  unfold applyMutation
  rw [read]
  dsimp only
  rw [Run.modifyGet_bind, write_create]
  rfl

lemma entryCreations_within (bySteps : engine.BySteps) {current : Running} {i : Nat}
    (handles : world.Handles current actor message entry) (same : current.config = running.config)
    (mem : (engine.entryCreations actor running message entry world)[i]? = some creation) :
    creation.Within world (engine.handleEntry actor running message entry world) := by
  have marks : ∀ (rerender : Bool) middle, world.Nests middle → World.BySteps (do
      modify fun world => world.mark message
      return rerender : Run Bool) middle := by
    intro rerender middle nests
    obtain ⟨_, handles⟩ := handles.nests nests
    exact BySteps.bind (mark_bySteps handles) fun _ _ _ _ => bySteps_pure _ _
  unfold entryCreations at mem
  rw [handleEntry, Run.get_bind]
  dsimp only
  split at mem
  · simp at mem
  · rename_i payload valid
    rw [valid]
    refine within_then ?_ fun rerender middle ran => marks rerender middle
      ((dispatch_bySteps bySteps payload handles same ⟨payload, valid⟩).ok ran).2
    rw [dispatch, Run.get_bind]
    split at mem
    · rename_i event
      rw [if_pos event]
      refine within_then ?_ fun _ _ _ => bySteps_pure _ _
      split at mem
      · rename_i value key read
        cases i with
        | zero =>
          obtain rfl := Option.some.inj mem
          rw [applyMutation_create read]
          exact ⟨.refl, .refl⟩
        | succ i => simp at mem
      · simp at mem
    · rename_i event
      rw [if_neg event]
      dsimp only at mem
      split at mem
      · rename_i accepted
        have replied :
            (modifyGet fun world => world.acceptReply actor message entry : Run _) world =
          .ok (world.acceptReply actor message entry).1
            (world.acceptReply actor message entry).2 := rfl
        have validates : world.Validates ⟨actor, current.config⟩ message entry :=
          same ▸ ⟨payload, valid⟩
        have runs := (acceptReply_nests world actor message entry).contains
          (Option.isSome_iff_exists.2 ⟨current, handles.found⟩)
        refine within_bind replied (.single (.accept handles validates event)) ?_
        rw [if_pos accepted]
        have asks := running.behavior.send_asksAs ⟨actor, running.config⟩ running.memory
          ⟨entry.type, payload, entry.source, entry.correlation⟩
        exact within_then (creations_within bySteps asks runs mem) fun _ _ _ => bySteps_pure _ _
      · simp at mem

/-! ## Deliveries -/

/-- The turn of an actor that is handed a message: it is idle, and it picks the message from its
inbox. -/
lemma turnCreations_eq_some (turn : engine.turnCreations actor world = some (message, creates)) :
    ∃ running inbox position entry middle, world.running.find? actor = some running ∧
      running.activity = .idle ∧ world.store.read running.config.inbox = some inbox ∧
      world.pick actor running (Inbox.entries inbox) = (some (position, message, entry), middle) ∧
      creates = engine.entryCreations actor running message entry
        (middle.turnTo actor (.handling (Inbox.entries inbox).length)) := by
  unfold turnCreations at turn
  cases found : world.running.find? actor with
  | none =>
    rw [found] at turn
    cases turn
  | some running =>
    rw [found] at turn
    dsimp only at turn
    by_cases idle : running.activity = .idle
    · rw [if_neg (not_not.2 idle)] at turn
      cases read : world.store.read running.config.inbox with
      | none =>
        -- an inbox that cannot be read lists nothing
        have none : (world.pick actor running (Inbox.listed world.store running.config.inbox)).1 =
            none := by
          rw [pick_fst, lookFor, Inbox.listed, read, Option.map_none, Option.getD_none,
            List.drop_nil]
          rfl
        rw [none] at turn
        cases turn
      | some inbox =>
        rw [Inbox.listed_of_read read] at turn
        cases picked : world.pick actor running (Inbox.entries inbox) with
        | mk taken middle =>
        rw [picked] at turn
        obtain ⟨⟨position, _, entry⟩, rfl, eq⟩ := Option.map_eq_some_iff.1 turn
        obtain ⟨rfl, rfl⟩ := Prod.mk.inj eq
        exact ⟨running, inbox, position, entry, middle, rfl, idle, read, picked, rfl⟩
    · rw [if_pos idle] at turn
      cases turn

namespace Delivery

variable {i : Nat}

/-- A delivery goes by steps, and may break off. -/
lemma stepsOrBreaks (bySteps : engine.BySteps)
    (delivery : engine.Delivery world actor message creates after) :
    StepsOrBreaks world after := by
  obtain ⟨ready, next, -, ended⟩ := delivery
  have ends := handleNext_bySteps bySteps next
  obtain ⟨_, ran⟩ | ⟨_, ran⟩ := ended <;> rw [ran] at ends
  · exact Steps.stepsOrBreaks ends.1
  · exact ends.1

/-- The creates of a delivery have the key of its message and their numbers. -/
theorem key (delivery : engine.Delivery world actor message creates after)
    (mem : creates[i]? = some creation) :
    creation.key = some (numberedKey (messageKey message) i) := by
  obtain ⟨ready, -, turn, -⟩ := delivery
  obtain ⟨running, inbox, position, entry, middle, -, -, -, -, rfl⟩ := turnCreations_eq_some turn
  exact entryCreations_key mem

/-- The creates of a delivery are steps on the way from its beginning to its end. -/
theorem within (bySteps : engine.BySteps)
    (delivery : engine.Delivery world actor message creates after)
    (mem : creates[i]? = some creation) :
    Steps world creation.world ∧ StepsOrBreaks creation.after after := by
  obtain ⟨ready, next, turn, ended⟩ := delivery
  obtain ⟨running, inbox, position, entry, middle, found, idle, read, picked, rfl⟩ :=
    turnCreations_eq_some turn
  have step := take_step next found idle read (by rw [picked])
  have handles := pick_handles (Inbox.entries inbox).length found (by rw [picked])
  rw [picked] at step handles
  dsimp only at step handles
  obtain ⟨steps, reaches⟩ : creation.Within _ (engine.handleEntry actor running message entry _) :=
    entryCreations_within bySteps handles rfl mem
  refine ⟨.head step steps, ?_⟩
  have goesOn : World.BySteps (engine.handleEntry actor running message entry) _ :=
    handleEntry_bySteps bySteps handles rfl
  rw [handleNext_eq] at ended
  simp only [found, idle, ne_eq, not_true_eq_false, if_false, read, picked] at ended
  cases handled : engine.handleEntry actor running message entry
      (middle.turnTo actor (.handling (Inbox.entries inbox).length)) with
  | ok rerender last =>
    rw [handled] at ended reaches
    obtain ⟨current, there, kept⟩ := (goesOn.ok handled).2.kept actor _ handles.found
    have finish := Step.finish there kept.activity
    rw [kept.cursor (by simp)] at finish
    obtain ⟨_, ⟨⟩⟩ | ⟨_, ⟨⟩⟩ := ended
    exact reaches.tail (.step finish)
  | error halt last =>
    rw [handled] at ended reaches
    obtain ⟨current, there, kept⟩ := (goesOn.error handled).2.1.kept actor _ handles.found
    obtain ⟨_, ⟨⟩⟩ | ⟨_, ⟨⟩⟩ := ended
    exact reaches.tail (.breakOff there (by simp [kept.activity]))

end Delivery

end Engine

end Troupe
