import Mathlib.Tactic.Lemma
import Troupe.World.Commands

/-!
# Sessions

Everything that can be done with a runtime from outside, as a value (`Command`), and the states
that a runtime comes to.  In a `Session` commands follow each other, and a tool may break one
off.  A `Quiet` state is one in which no pass is under way: between commands that return, and
inside a pump between the entries that it handles.
-/

namespace Troupe

/-! ## Computations -/

namespace Run

variable {α β : Type} {world after : World} {first : Run α} {next : α → Run β}

/-- What follows a computation starts where the computation ends. -/
lemma bind_of_ok {answer : α} {middle : World} (ran : first world = .ok answer middle) :
    (first >>= next) world = next answer middle := by
  simp only [bind, EStateM.bind, ran]

/-- Nothing follows a halt. -/
lemma bind_of_error {halt : Halt} (ran : first world = .error halt after) :
    (first >>= next) world = .error halt after := by
  simp only [bind, EStateM.bind, ran]

/-- If two computations return one after the other, each of them does. -/
lemma ok_of_bind {result : β} (ran : (first >>= next) world = .ok result after) :
    ∃ answer middle, first world = .ok answer middle ∧ next answer middle = .ok result after := by
  cases begun : first world with
  | ok answer middle => exact ⟨answer, middle, rfl, (bind_of_ok begun).symm.trans ran⟩
  | error halt middle =>
    rw [bind_of_error begun] at ran
    cases ran

/-- If one of two computations halts, it is the first, or the first returns and the second halts. -/
lemma error_of_bind {halt : Halt} (ran : (first >>= next) world = .error halt after) :
    first world = .error halt after ∨
      ∃ answer middle, first world = .ok answer middle ∧ next answer middle = .error halt after := by
  cases begun : first world with
  | ok answer middle => exact .inr ⟨answer, middle, rfl, (bind_of_ok begun).symm.trans ran⟩
  | error halt' middle =>
    rw [bind_of_error begun] at ran
    cases ran
    exact .inl rfl

lemma get_bind (next : World → Run β) (world : World) :
    (get >>= next) world = next world world := rfl

lemma set_bind (new : World) (next : PUnit → Run β) (world : World) :
    (set new >>= next) world = next () new := rfl

lemma modifyGet_bind (change : World → α × World) (next : α → Run β) (world : World) :
    (modifyGet change >>= next) world = next (change world).1 (change world).2 := rfl

/-- Whether a computation returns, with an answer and in a state that pass a test. -/
def returns (run : Run α) (test : α → World → Bool) (world : World) : Bool :=
  match run world with
  | .ok answer after => test answer after
  | .error _ _ => false

lemma exists_of_returns (run : Run α) (test : α → World → Bool) (world : World)
    (returned : run.returns test world) :
    ∃ answer after, run world = .ok answer after ∧ test answer after := by
  rw [returns] at returned
  cases ran : run world with
  | ok answer after =>
    rw [ran] at returned
    exact ⟨answer, after, rfl, returned⟩
  | error halt after =>
    rw [ran] at returned
    cases returned

/-- Whether a tool breaks a computation off, in a state that passes a test. -/
def panics (run : Run α) (test : World → Bool) (world : World) : Bool :=
  match run world with
  | .error .panic after => test after
  | _ => false

lemma exists_of_panics (run : Run α) (test : World → Bool) (world : World)
    (panicked : run.panics test world) : ∃ after, run world = .error .panic after ∧ test after := by
  unfold panics at panicked
  split at panicked
  · rename_i after ran
    exact ⟨after, ran, panicked⟩
  · cases panicked

end Run

/-! ## Commands -/

namespace World

/-- Take off a listener that was added from outside; the watches of actors are not for others
to take off. -/
def unwatch (world : World) (token : Nat) : World :=
  if world.store.watches.any fun watch =>
      watch.token == token && !(watch.listener matches .outside _) then world
  else { world with store := world.store.unsubscribe token }

/-- Only watches end with it. -/
lemma unwatch_frame (world : World) (token : Nat) :
    ∃ watches, world.unwatch token = { world with store := { world.store with watches } } := by
  unfold unwatch
  split
  · exact ⟨world.store.watches, rfl⟩
  · exact ⟨_, rfl⟩

/-- Begin anew over the saved store, if it can be read. -/
def restart (world : World) (config : Config) : World := (world.restore? config).getD world

end World

/-- What can be done with a runtime from outside. -/
inductive Command where
  /-- Make an actor. -/
  | createActor (spec : ActorSpec)
  /-- Start an actor, without handling what waits. -/
  | start (actor : Id)
  /-- Start an actor and handle what waits. -/
  | spawn (actor : Id)
  /-- Stop an actor. -/
  | stop (actor : Id)
  /-- Deliver a message, without handling what waits. -/
  | queue (target : Id) (message : Message)
  /-- Deliver a message and handle what waits. -/
  | send (target : Id) (message : Message)
  /-- Deliver a message to the actor that a text names. -/
  | sendTo (target : String) (message : Message)
  /-- Deliver a message that has no sender. -/
  | tell (target : Id) (event : String) (payload : Json)
  /-- Queue an actor. -/
  | schedule (actor : Id)
  /-- Handle what waits. -/
  | pump
  /-- Time out asks. -/
  | expire (now : Int)
  /-- Run an actor's tool. -/
  | invoke (actor : Id) (payload : Json)
  /-- Carry out a store operation. -/
  | execute (op : StoreOp)
  /-- Refuse all further writes to an object. -/
  | protect (object : Id)
  /-- Add a listener to an object. -/
  | watch (object : Id) (name : String)
  /-- Take a listener off. -/
  | unwatch (token : Nat)
  /-- Register a schema. -/
  | registerSchema (event : String) (schema : Json)
  /-- Put other tools in place. -/
  | setTools (tools : ToolRegistry)
  /-- Say what is run when an actor is to be rendered again. -/
  | onRerender (script : Option (Id → Script Unit))
  /-- Set the clock. -/
  | setTime (now : Int)
  /-- Save the store and begin anew over it. -/
  | restart (config : Config)

namespace Command

/-- Carry out a command; `fuel` bounds how long it may take. -/
def run (fuel : Nat) : Command → Run Unit
  | .createActor spec => do let _ ← World.createActor spec
  | .start actor => do let _ ← (engine fuel).spawn actor
  | .spawn actor => do let _ ← World.spawn fuel actor
  | .stop actor => do let _ ← World.stop actor
  | .queue target message => do let _ ← World.queue fuel target message.plain
  | .send target message => do let _ ← World.send fuel target message.plain
  | .sendTo target message => do let _ ← World.sendTo fuel target message.plain
  | .tell target event payload => do let _ ← World.tellActor fuel target event payload
  | .schedule actor => modify fun world => world.schedule actor
  | .pump => do let _ ← World.pump fuel
  | .expire now => do let _ ← World.expireAsks fuel now
  | .invoke actor payload => do let _ ← World.invoke fuel actor payload
  | .execute op => do let _ ← World.execute op
  | .protect object => modify fun world => { world with store := world.store.protect object }
  | .watch object name =>
    modify fun world => { world with store := (world.store.subscribe object (.outside name)).2 }
  | .unwatch token => modify fun world => world.unwatch token
  | .registerSchema event schema => modify fun world => world.registerSchema event schema
  | .setTools tools => modify fun world => { world with tools }
  | .onRerender script => modify fun world => { world with onRerender := script }
  | .setTime now => modify fun world => { world with clock := { world.clock with now } }
  | .restart config => modify fun world => world.restart config

end Command

/-- The states that a runtime comes to by commands, whether they return or a tool breaks them
off. -/
inductive Session (first : World) : World → Prop
  /-- The first state. -/
  | first : Session first first
  /-- A command has returned. -/
  | returned {world after : World} (fuel : Nat) (command : Command) :
    Session first world → command.run fuel world = .ok () after → Session first after
  /-- A tool has broken a command off. -/
  | brokenOff {world after : World} (fuel : Nat) (command : Command) :
    Session first world → command.run fuel world = .error .panic after → Session first after

/-- The states that a runtime comes to by commands that return, in which no pass is under way. -/
inductive Quiet (first : World) : World → Prop
  /-- The first state. -/
  | first : Quiet first first
  /-- A command has returned. -/
  | returned {world after : World} (fuel : Nat) (command : Command) :
    Quiet first world → command.run fuel world = .ok () after → Quiet first after
  /-- A pump begins or ends. -/
  | pumping {world : World} (pumping : Bool) :
    Quiet first world → Quiet first { world with pumping }
  /-- A pump has handled the next entry of the actor that was queued first. -/
  | served {world after : World} {ready : ReadyQueue} {actor : Id} {rerender : Option Bool}
    (depth : Nat) :
    Quiet first world → world.ready.pop? = some (actor, ready) →
    (engine depth).handleNext actor { world with ready } = .ok rerender after →
    Quiet first after
  /-- An actor is about to be rendered again. -/
  | rendering {world : World} (rerenders : List (Id × Option String)) :
    Quiet first world → Quiet first { world with rerenders }
  /-- Code from outside has run, or a part of it. -/
  | ran {world after : World} {α : Type} {result : α} (depth : Nat) (script : Script α) :
    Quiet first world → (engine depth).runScript script world = .ok result after →
    Quiet first after
  /-- The asks whose deadline has come are about to be timed out. -/
  | expiring {world : World} (now : Int) :
    Quiet first world → Quiet first (world.timeOut now)
  /-- The asker of an ask that has timed out has been told. -/
  | told {world after : World} {now : Int} {correlation : Id} {ask : PendingAsk} (fuel : Nat) :
    Quiet first world → Note.timedOut correlation ask now ∈ world.journal →
    world.running.contains ask.asker →
    World.expireOne fuel now correlation ask world = .ok () after → Quiet first after

/-! ## Running commands on given states -/

namespace Command

/-- Whether commands return one after the other, and in a state that passes a test. -/
def allReturn (fuel : Nat) (commands : List Command) (test : World → Bool) (world : World) : Bool :=
  match commands with
  | [] => test world
  | command :: rest => (command.run fuel).returns (fun _ => allReturn fuel rest test) world

end Command

/-- Commands that return make a session. -/
lemma Session.exists_of_allReturn {first world : World} (fuel : Nat) (commands : List Command)
    (test : World → Bool) (session : Session first world)
    (returned : Command.allReturn fuel commands test world) :
    ∃ last, Session first last ∧ test last := by
  induction commands generalizing world with
  | nil => exact ⟨world, session, returned⟩
  | cons command rest ih =>
    obtain ⟨⟨⟩, after, ran, returned⟩ := Run.exists_of_returns (command.run fuel) _ world returned
    exact ih (session.returned fuel command ran) returned

namespace Sample

/-- The actor of a small runtime. -/
def actor : Id := .ofNat 3

/-- A saved store with one actor: its inbox lists a message, its behavior has no handlers. -/
def image : StoreImage where
  objects := Table.ofList
    [(.ofNat 1, .obj [("entries", .arr [.id (.ofNat 4)])]),
      (.ofNat 2, .empty),
      (actor, (ActorConfig.toJson
        ⟨["GO"], .ofNat 1, .ofNat 2, .obj [("kind", .str "process")], none, ∅, ∅⟩)),
      (.ofNat 4, (Entry.pending actor { type := "GO", payload := .null }).toJson)]
  keys := ∅

/-- A tool that breaks off. -/
def bang : Tool := ⟨⟨"bang", "", .empty⟩, fun _ _ => .panic⟩

end Sample

end Troupe
