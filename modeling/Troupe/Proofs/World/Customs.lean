import Troupe.Proofs.World.Keeps
import Troupe.Proofs.World.Steps

/-!
# Relations that commands keep

What a `World.Frame` is for passes and tools, a `World.Custom` is for commands: relations that also
hold of what a command does on its own account.  Commands that stop an actor or begin anew are left
out, as what holds of actors that run may not hold of these.

## Main results

* `Command.run_keeps`: all other commands keep what starting an actor, posting and pumping keep.
-/

namespace Troupe

/-- Relations that also hold of what commands do on their own account. -/
structure World.Custom (R F : World → World → Prop) : Prop extends World.Regime R F where
  /-- The store is written to or protected, or others listen to it, and that is not noted. -/
  stored : ∀ {before after : World}, after.config = before.config →
    before.store.Since after.store → after.running = before.running →
    after.journal = before.journal → R before after
  /-- An inbox is made. -/
  makeInbox : ∀ world : World, R world world.makeInbox.2
  /-- Asks time out. -/
  timeOut : ∀ (world : World) now, R world (world.timeOut now)

namespace World

variable {R F : World → World → Prop}

lemma Custom.apply (custom : Custom R F) (world : World) (op : StoreOp) :
    R world (world.apply op).2 := by
  have storeFrame := world.apply_storeFrame op
  exact custom.stored storeFrame.config storeFrame.store.toGrows.since storeFrame.running
    (world.apply_journal op)

end World

/-- A command neither stops an actor nor begins anew. -/
def Command.Mild : Command → Prop
  | .stop _ | .restart _ => False
  | _ => True

section Commands

open World

variable {R F : World → World → Prop} {may : Message → Prop} {fuel : Nat}
variable (custom : Custom R F) (keeps : (engine fuel).KeepsFor may R F)
  (starts : ∀ id world, Run.Keeps R F ((engine fuel).spawn id) world)

include custom

lemma createActor_keeps (spec : ActorSpec) (world : World) :
    Run.Keeps R F (createActor spec) world := by
  have frame := custom.toFrame
  refine .get ?_
  split
  · exact .pure frame _ _
  · split
    · exact .pure frame _ _
    · refine .bind frame (.modifyGet (custom.makeInbox world)) fun inbox first _ => ?_
      refine .bind frame (.modifyGet (custom.apply first (.create spec.context none)))
        fun context second _ => ?_
      refine .bind frame (.modifyGet (custom.apply second (.create _ none))) fun id third _ => ?_
      refine .bind frame (.modifyGet (custom.apply third _)) fun owned last _ => ?_
      cases owned <;> exact .pure frame _ _

include keeps

lemma expireOne_keeps (now : Int) (correlation : Id) (ask : PendingAsk) (world : World) :
    Run.Keeps R F (expireOne fuel now correlation ask) world := by
  have frame := custom.toFrame
  have tracked : R world (world.track correlation ask.asker now) := custom.aside rfl rfl rfl rfl
  refine .bind frame (.modify tracked) fun _ middle _ => .get ?_
  exact .bind frame (keeps.post _ _ middle (keeps.plain _ rfl)) fun _ _ _ => .pure frame _ _

lemma expireAsks_keeps (now : Int) (world : World) :
    Run.Keeps R F (expireAsks fuel now) world := by
  have frame := custom.toFrame
  have each : ∀ (entries : List (Id × PendingAsk)) world,
      Run.Keeps R F (entries.forM fun entry => expireOne fuel now entry.1 entry.2) world := by
    intro entries
    induction entries with
    | nil => exact fun _ => .pure frame _ _
    | cons entry rest ih =>
      exact fun world => .bind frame (expireOne_keeps custom keeps now entry.1 entry.2 world)
        fun _ middle _ => ih middle
  refine .get (.bind frame (.modify (custom.timeOut world now)) fun _ middle _ =>
    .bind frame (each _ middle) fun _ last _ => ?_)
  split
  · exact .bind frame (keeps.pump last) fun _ _ _ => .pure frame _ _
  · exact .pure frame _ _

lemma sendTo_keeps (target : String) {message : Message} (allowed : may message) (world : World) :
    Run.Keeps R F (sendTo fuel target message) world := by
  unfold sendTo
  cases resolveTarget target with
  | error cause => exact .pure custom.toFrame _ _
  | ok id => exact Engine.deliver_keeps custom.toFrame keeps id allowed world

include starts

lemma spawn_keeps (id : Id) (world : World) : Run.Keeps R F (spawn fuel id) world := by
  have frame := custom.toFrame
  refine .bind frame (starts id world) fun result middle _ => ?_
  cases result with
  | error error => exact .pure frame _ _
  | ok done => exact .bind frame (keeps.pump middle) fun _ _ _ => .pure frame _ _

/-- A command that stops no actor keeps what starting an actor, posting and pumping keep. -/
theorem Command.run_keeps (command : Command) (mild : command.Mild) (world : World) :
    Run.Keeps R F (command.run fuel) world := by
  have frame := custom.toFrame
  have discard : ∀ {α : Type} {run : Run α}, Run.Keeps R F run world →
      Run.Keeps R F (do let _ ← run : Run Unit) world := fun kept =>
    .bind frame kept fun _ _ _ => .pure frame _ _
  have plain : ∀ message : Message, may message.plain := fun message => keeps.plain _ rfl
  cases command with
  | createActor spec => exact discard (createActor_keeps custom spec world)
  | start id => exact discard (starts id world)
  | spawn id => exact discard (spawn_keeps custom keeps starts id world)
  | stop id => exact mild.elim
  | queue target message => exact discard (keeps.post _ _ world (plain message))
  | send target message =>
    exact discard (Engine.deliver_keeps frame keeps target (plain message) world)
  | sendTo target message => exact discard (sendTo_keeps custom keeps target (plain message) world)
  | tell target event payload =>
    exact discard (Engine.deliver_keeps frame keeps target (keeps.plain _ rfl) world)
  | pump => exact discard (keeps.pump world)
  | expire now => exact discard (expireAsks_keeps custom keeps now world)
  | invoke id payload => exact discard (Engine.invoke_keeps frame keeps id payload world)
  | execute op =>
    have kept : Run.Keeps R F (World.execute op) world := frame.write world op
    exact discard kept
  | restart config => exact mild.elim
  | protect object =>
    exact .modify (custom.stored rfl (.of_eq rfl rfl rfl fun _ => List.mem_cons_of_mem _) rfl rfl)
  | watch object name =>
    exact .modify (custom.stored rfl (.of_eq rfl rfl rfl fun _ => id) rfl rfl)
  | unwatch token =>
    obtain ⟨watches, same⟩ := world.unwatch_frame token
    have unwatched : R world (world.unwatch token) := by
      rw [same]
      exact custom.stored rfl (.of_eq rfl rfl rfl fun _ => id) rfl rfl
    exact .modify unwatched
  | schedule | registerSchema | setTools | onRerender | setTime =>
    exact .modify (custom.aside rfl rfl rfl rfl)

end Commands

end Troupe
