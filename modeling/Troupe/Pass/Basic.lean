import Troupe.Message
import Troupe.Store.Basic
import Troupe.Tool.Script

/-!
# Passes

A pass is the handling of one event by one actor.  It is a program over the few requests that
a behavior may make of its surroundings, so what a behavior does is a value: two behaviors
that make the same requests with the same answers are the same program, whatever surrounds
them.
-/

namespace Troupe

/-- A committed transition of a state machine. -/
structure Transition where
  /-- State before. -/
  source : String
  /-- State after. -/
  target : String
  /-- Event that caused it. -/
  event : String
deriving DecidableEq

/-- What a behavior remembers between events. -/
structure Memory where
  /-- Current state, for state machines. -/
  state : Option String := none
  /-- Committed transitions, oldest first. -/
  history : List Transition := []
  /-- Payload of the last handled event. -/
  lastEvent : Json := .null
  /-- Latest result of the last handled event. -/
  lastResult : Json := .null
  /-- How many passes have come to their end, where each writes the context.  No behavior looks at
  this; it is there to say of a context that nothing else wrote it. -/
  passes : Nat := 0

/-- The handling of one event. -/
inductive Pass (α : Type) where
  /-- Finish with a result. -/
  | done (result : α)
  /-- Read an object. -/
  | read (id : Id) (next : Option Json → Pass α)
  /-- Carry out a store operation. -/
  | execute (op : StoreOp) (next : Except StoreError Json → Pass α)
  /-- Call a tool. -/
  | callTool (name : String) (view : ActorView) (payload : Json)
      (next : Except ToolError Json → Pass α)
  /-- Put a message into an inbox. -/
  | deliver (target : Id) (message : Message) (next : Except ActionError Id → Pass α)
  /-- Ask for the event types that an actor accepts. -/
  | interfaceOf (target : Id) (next : Except ActionError (List String) → Pass α)
  /-- Note an ask and get the identifier that its answer will carry. -/
  | registerAsk (asker target : Id) (event : String) (next : Id → Pass α)
  /-- Run another actor's tool. -/
  | invoke (target : Id) (payload : Json) (next : Except ActionError Json → Pass α)
  /-- Change what the behavior remembers, at once: a pass that breaks off later keeps it. -/
  | remember (memory : Memory) (next : Pass α)

namespace Pass

variable {α β : Type}

/-- Go on with the result of a pass. -/
def bind : Pass α → (α → Pass β) → Pass β
  | .done result, f => f result
  | .read id next, f => .read id fun answer => (next answer).bind f
  | .execute op next, f => .execute op fun answer => (next answer).bind f
  | .callTool name view payload next, f =>
    .callTool name view payload fun answer => (next answer).bind f
  | .deliver target message next, f => .deliver target message fun answer => (next answer).bind f
  | .interfaceOf target next, f => .interfaceOf target fun answer => (next answer).bind f
  | .registerAsk asker target event next, f =>
    .registerAsk asker target event fun answer => (next answer).bind f
  | .invoke target payload next, f => .invoke target payload fun answer => (next answer).bind f
  | .remember memory next, f => .remember memory (next.bind f)

instance : Monad Pass where
  pure := .done
  bind := bind

instance : LawfulMonad Pass := by
  have bind_done : ∀ {α : Type} (p : Pass α), p.bind .done = p := by
    intro α p
    induction p with
    | done => rfl
    | remember memory next ih => exact congrArg _ ih
    | _ => simp only [bind, *]
  have bind_assoc : ∀ {α β γ : Type} (p : Pass α) (f : α → Pass β) (g : β → Pass γ),
      (p.bind f).bind g = p.bind fun a => (f a).bind g := by
    intro α β γ p f g
    induction p with
    | done => rfl
    | remember memory next ih => exact congrArg _ ih
    | _ => simp only [bind, *]
  exact LawfulMonad.mk' Pass (fun p => bind_done p) (fun _ _ => rfl)
    (fun p f g => bind_assoc p f g)

end Pass

/-- Whether the actions that follow still run. -/
inductive Flow where
  /-- They do. -/
  | proceed
  /-- They do not. -/
  | stop
deriving DecidableEq

/-- What handling an event came to. -/
structure Dispatch where
  /-- A handler or a transition applied. -/
  handled : Bool := false
  /-- What the actor shows has changed. -/
  rerender : Bool := false
deriving DecidableEq

end Troupe
