import Troupe.Schema.Check
import Troupe.Tool.Definition
import Troupe.Tool.Script

/-!
# The tool registry

Tools by name, with counts of their calls.  A call is admitted when the tool exists and the
payload conforms to its parameters; how an admitted call ended is noted afterwards, so a call
that breaks off counts in the total alone.
-/

namespace Troupe

/-- A registered tool. -/
structure Tool where
  /-- Its declaration. -/
  definition : ToolDefinition
  /-- Its code. -/
  code : ToolCode

/-- Counts of tool calls. -/
structure ToolStats where
  /-- All calls of tools that exist. -/
  total : Nat := 0
  /-- Calls that gave a result. -/
  successful : Nat := 0
  /-- Calls whose payload did not conform. -/
  rejected : Nat := 0
  /-- Calls that failed. -/
  failed : Nat := 0
deriving DecidableEq

namespace ToolStats

/-- Counts as a record. -/
def toJson (stats : ToolStats) : Json :=
  .record
    [("total", .count stats.total), ("successful", .count stats.successful),
      ("rejected", .count stats.rejected), ("failed", .count stats.failed)]

end ToolStats

/-- Tools by name. -/
structure ToolRegistry where
  /-- The tools. -/
  tools : Table String Tool := ∅
  /-- Counts of their calls. -/
  stats : ToolStats := {}

namespace ToolRegistry

/-- Register a tool, in place of the one that had its name. -/
def register (registry : ToolRegistry) (tool : Tool) : ToolRegistry :=
  { registry with tools := registry.tools.insert tool.definition.name tool }

/-- Drop a tool. -/
def unregister (registry : ToolRegistry) (name : String) : Except ToolError ToolRegistry :=
  if registry.tools.contains name then
    .ok { registry with tools := registry.tools.erase name }
  else .error (.notFound name)

/-- Whether a tool has the name. -/
def contains (registry : ToolRegistry) (name : String) : Bool := registry.tools.contains name

/-- The declaration of a tool. -/
def definition? (registry : ToolRegistry) (name : String) : Option ToolDefinition :=
  (registry.tools.find? name).map Tool.definition

/-- The names of all tools, in order. -/
def names (registry : ToolRegistry) : List String := registry.tools.keys

/-- Begin a call: the code to run, if the tool exists and the payload conforms. -/
def beginCall (registry : ToolRegistry) (name : String) (payload : Json) :
    Except ToolError ToolCode × ToolRegistry :=
  match registry.tools.find? name with
  | none => (.error (.notFound name), registry)
  | some tool =>
    let stats := { registry.stats with total := registry.stats.total + 1 }
    match Schema.validate tool.definition.parameters payload with
    | [] => (.ok tool.code, { registry with stats := stats })
    | errors =>
      (.error (.validation name errors),
        { registry with stats := { stats with rejected := stats.rejected + 1 } })

/-- Note how an admitted call ended. -/
def endCall (registry : ToolRegistry) (result : Except ToolError Json) : ToolRegistry :=
  let stats := registry.stats
  match result with
  | .ok _ => { registry with stats := { stats with successful := stats.successful + 1 } }
  | .error _ => { registry with stats := { stats with failed := stats.failed + 1 } }

end ToolRegistry

end Troupe
