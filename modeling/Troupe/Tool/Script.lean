import Troupe.Message
import Troupe.Store.Basic

/-!
# What tools do

A tool is code from outside.  What it may do to the runtime is written down as a script: read
and write the store, deliver a message and have the runtime handle what waits, or break off
the pass that called it.  A script that does none of this only computes its result.
-/

namespace Troupe

/-- A computation that may call back into the runtime. -/
inductive Script (α : Type) where
  /-- Finish with a result. -/
  | done (result : α)
  /-- Break off, and with it every call on the way here. -/
  | panic
  /-- Read an object. -/
  | read (id : Id) (next : Option Json → Script α)
  /-- Carry out a store operation. -/
  | execute (op : StoreOp) (next : Except StoreError Json → Script α)
  /-- Deliver a message, then handle what waits. -/
  | deliver (target : Id) (message : Message) (next : Except RuntimeError Id → Script α)
  /-- Handle what waits; tells how many entries were handled. -/
  | pump (next : Nat → Script α)

/-- What a tool sees of its caller. -/
structure ActorView where
  /-- The calling actor. -/
  id : Id
  /-- Its context, staged patches included. -/
  context : Json

/-- The code of a tool: a script for each caller and payload. -/
abbrev ToolCode := ActorView → Json → Script (Except ToolError Json)

end Troupe
