import Troupe.Proofs.World.Nesting

/-!
# Start passes and deliveries

A pass that is run by a pump is left in peace: what its tools deliver waits until the pump comes to
it.  The start pass of an actor is run by whoever starts the actor, and that may be a command or the
delivery of a message, with no pump under way.  Then what a tool of the pass delivers is handled at
once, before the pass has come to its end.

## Main results

* `Engine.deliver_serves`: a delivery outside of all pumps leaves no entry waiting;
* `World.start_pass_interleaves`: when entries are handled during a start pass.
-/

namespace Troupe

open World

/-- A delivery that succeeds, and that no pump is around, leaves no entry waiting for an actor that
is idle when it is done. -/
lemma Engine.deliver_serves (depth : Nat) {world after : World} {target id other : Id}
    {message : Message} {running : Running} (awake : world.Awake)
    (outermost : world.pumping = false)
    (ran : (engine depth).deliver target message world = .ok (.ok id) after)
    (found : after.running.find? other = some running) (idle : running.activity = .idle) :
    ¬ after.Waits running := by
  obtain ⟨posted, middle, post, rest⟩ := Run.ok_of_bind ran
  cases posted with
  | error error => cases rest
  | ok id =>
    obtain ⟨handled, last, pump, done⟩ := Run.ok_of_bind rest
    cases done
    obtain ⟨steps, nests⟩ := (post_bySteps (engine_bySteps depth) target message world).ok post
    obtain ⟨steps', -⟩ := ((engine_bySteps depth).pump middle).ok pump
    have served := pump_serves depth (nests.pumping.trans outermost) pump
    have among := (awake.toAmong fun _ => True).calm (Steps.calm (steps.trans steps'))
    exact among.of_served trivial served found idle

/-- **When entries are handled during a start pass.**  An actor that does not run is started, in any
state that a runtime may come to.  If a pump is under way, no entry of any inbox is passed over,
taken or marked until the start pass has come to its end, its last write included.  If none is, a
delivery by a tool of the pass does not wait for that: when it is done, no entry is left waiting for
any actor that is not itself busy. -/
theorem World.start_pass_interleaves {config : Config} {supply : Supply} {image : StoreImage}
    {correlations : Supply} {clock : Clock} {world : World} {actor : Id} {record : ActorConfig}
    {behavior : Behavior} (depth : Nat)
    (calm : Calm (World.new config (Store.ofImage supply image) correlations clock) world)
    (stopped : world.running.contains actor = false)
    (recorded : world.actorConfig actor = .ok record)
    (loaded : Behavior.load record.behavior world.config = .ok behavior) :
    let begun := (world.enlist actor record behavior).turnTo actor .starting
    (world.pumping = true → Run.Keeps Encloses Encloses ((engine depth).runPass actor
      (behavior.start ⟨actor, record⟩ behavior.initialMemory)) begun) ∧
    (world.pumping = false → ∀ within target message id after, Steps begun within →
      begun.Nests within → (engine depth).deliver target message within = .ok (.ok id) after →
      ∀ other running, after.running.find? other = some running → running.activity = .idle →
        ¬ after.Waits running) := by
  intro begun
  have pumping : begun.pumping = world.pumping := updateRunning_pumping _ _ _
  refine ⟨fun under => ?_, fun outside within target message id after steps nests ran other running
    found idle => ?_⟩
  · have nested := Engine.runPass_keeps nested_frame (engine_encloses depth).1
      (fun world => remember_nested world actor)
      (behavior.start ⟨actor, record⟩ behavior.initialMemory) begun
    exact nested.encloses (pumping.trans under)
  · have begins : (World.new config (Store.ofImage supply image) correlations clock).Awake :=
      awake_of_stopped rfl rfl rfl
    have enlist := Step.enlist stopped recorded loaded
    have awake : within.Awake := (begins.calm calm).calm (Steps.calm (steps.head enlist))
    exact Engine.deliver_serves depth awake ((nests.pumping.trans pumping).trans outside) ran found
      idle

namespace Sample

/-- A tool that delivers a message to an actor. -/
def relay (target : Id) : Tool :=
  ⟨⟨"relay", "", .empty⟩, fun _ _ =>
    .deliver target { type := "GO", payload := .empty } fun _ => .done (.ok .empty)⟩

/-- An actor that receives what is relayed. -/
def receiver : Id := .ofNat 8

/-- A runtime that knows a machine whose first state runs the tool of a third actor when it is
entered, and the receiver; neither runs. -/
def relaying : World :=
  World.new {} (Store.ofImage ⟨.ofNat, 20⟩ ⟨Table.ofList
    [(.ofNat 1, .obj [("entries", .arr [])]), (.ofNat 2, .empty),
      (actor, (ActorConfig.toJson ⟨[], .ofNat 1, .ofNat 2,
        .record [("kind", .str "machine"), ("initial", .str "on"), ("states", .record
          [("on", .record [("entry", .record [("invoke", .record
            [("target", .id (.ofNat 10)), ("payload", .empty)])])])])], none, ∅, ∅⟩)),
      (.ofNat 6, .obj [("entries", .arr [])]), (.ofNat 7, .empty),
      (receiver, (ActorConfig.toJson ⟨["GO"], .ofNat 6, .ofNat 7,
        .record [("kind", .str "process"), ("handlers", .record [("GO", .arr [])])], none, ∅,
        Table.ofList [("GO", .bool true)]⟩)),
      (.ofNat 10, (ActorConfig.toJson ⟨[], .ofNat 11, .ofNat 12,
        .record [("kind", .str "process")], some "relay", ∅, ∅⟩))], ∅⟩)
    ⟨.ofNat, 0⟩ ⟨0, 1000⟩

/-- Whether an object was written after an actor began to handle an entry. -/
def writtenLater (object actor : Id) (world : World) : Bool :=
  let earlier := world.journal.dropWhile fun
    | .wrote other _ => other != object
    | _ => true
  earlier.any fun
    | .taken other .. => other == actor
    | _ => false

/-- The message that is relayed. -/
def order : Message := { type := "GO", payload := .empty }

/-- Whether the start pass of the machine, where it begins, can deliver the message, and the
receiver is idle then. -/
def delivers (world : World) (record : ActorConfig) (behavior : Behavior) : Bool :=
  record.context == .ofNat 2 &&
    ((engine 3).deliver receiver order).returns
      (fun answer after => answer.isOk &&
        (after.running.find? receiver).any fun running => decide (running.activity = .idle))
      ((world.enlist actor record behavior).turnTo actor .starting)

/-- Whether the machine is recorded, and its behavior can be loaded, and it `delivers`. -/
def relays (world : World) : Bool :=
  match world.actorConfig actor with
  | .error _ => false
  | .ok record =>
    match Behavior.load record.behavior world.config with
    | .error _ => false
    | .ok behavior => delivers world record behavior

/-- The machine relays as it was recorded and loaded. -/
lemma delivers_of_relays {world : World} (returned : relays world) : ∃ record behavior,
    world.actorConfig actor = .ok record ∧
      Behavior.load record.behavior world.config = .ok behavior ∧
      delivers world record behavior := by
  unfold relays at returned
  split at returned
  · cases returned
  · rename_i record recorded
    split at returned
    · cases returned
    · rename_i behavior loaded
      exact ⟨record, behavior, recorded, loaded, returned⟩

end Sample

/-- A machine is started with no pump under way.  A message that its start pass delivers is handled
before the pass writes the context of the machine. -/
theorem start_pass_handles_relayed :
    ∃ world record behavior id last running after, Calm Sample.relaying world ∧
      world.pumping = false ∧ world.running.contains Sample.actor = false ∧
      world.actorConfig Sample.actor = .ok record ∧
      Behavior.load record.behavior world.config = .ok behavior ∧
      (engine 3).deliver Sample.receiver Sample.order
        ((world.enlist Sample.actor record behavior).turnTo Sample.actor .starting) =
          .ok (.ok id) last ∧
      last.running.find? Sample.receiver = some running ∧ ¬ last.Waits running ∧
      (engine 4).spawn Sample.actor world = .ok (.ok ()) after ∧
      Sample.writtenLater record.context Sample.receiver after := by
  let world := { Sample.relaying with
    tools := ToolRegistry.register {} (Sample.relay Sample.receiver) }
  have calm : Calm Sample.relaying world := .single (.inr (.setTools _ _))
  have still : world.running.contains Sample.actor = false := rfl
  obtain ⟨answer, after, ran, tested⟩ := Run.exists_of_returns ((engine 4).spawn Sample.actor)
    (fun answer after => answer.isOk && Sample.writtenLater (.ofNat 2) Sample.receiver after) world
    (by decide +kernel)
  simp only [Bool.and_eq_true] at tested
  obtain ⟨ok, later⟩ := tested
  obtain _ | ⟨⟩ := answer
  · cases ok
  have relayed : Sample.relays world := by decide +kernel
  obtain ⟨record, behavior, recorded, loaded, delivers⟩ := Sample.delivers_of_relays relayed
  simp only [Sample.delivers, Bool.and_eq_true, beq_iff_eq] at delivers
  obtain ⟨context, returns⟩ := delivers
  obtain ⟨answer, last, delivered, tested⟩ := Run.exists_of_returns _ _ _ returns
  simp only [Bool.and_eq_true, Option.any_eq_true, decide_eq_true_eq] at tested
  obtain ⟨ok, running, found, idle⟩ := tested
  obtain _ | id := answer
  · cases ok
  have served := (start_pass_interleaves 3 calm still recorded loaded).2 rfl _ _ _ id last
    .refl (.refl _) delivered _ running found idle
  exact ⟨world, record, behavior, id, last, running, after, calm, rfl, still, recorded, loaded,
    delivered, found, served, ran, context ▸ later⟩

end Troupe
