import Troupe.Json.Skip
import Troupe.Json.Decode

/-!
# Runtime configuration

Every setting has a default.  A configuration read from text may name each setting once; what
else it holds is passed over and only has to look like JSON.
-/

namespace Troupe

/-- Settings of a runtime. -/
structure Config where
  /-- How long an ask may stay unanswered, in milliseconds. -/
  askTimeout : UInt64 := 30000
  /-- States in which no rerender is asked for. -/
  suppressedStates : List String := ["dragging"]
  /-- The event type for store mutations. -/
  mutationEvent : String := "MUTATE"
  /-- How many transitions a state machine remembers. -/
  historyLimit : UInt64 := 100
  /-- Whether to trace. -/
  debug : Bool := false

namespace Config

/-- A configuration as a record. -/
def toJson (config : Config) : Json :=
  .record
    [("ask_timeout_ms", .count config.askTimeout.toNat),
      ("suppressed_states", .strings config.suppressedStates),
      ("mutation_event", .str config.mutationEvent),
      ("history_limit", .count config.historyLimit.toNat),
      ("debug", .bool config.debug)]

/-- The names of all settings, in order. -/
def settings : List String :=
  ["ask_timeout_ms", "suppressed_states", "mutation_event", "history_limit", "debug"]

/-- The configuration that a record describes. -/
def ofJson? (record : Json) : Option Config := do
  let value ← record.named? settings
  let default : Config := {}
  return {
    askTimeout := ← value.defaulted? "ask_timeout_ms" Json.uint64? default.askTimeout
    suppressedStates :=
      ← value.defaulted? "suppressed_states" Json.strings? default.suppressedStates
    mutationEvent := ← value.defaulted? "mutation_event" Json.string? default.mutationEvent
    historyLimit := ← value.defaulted? "history_limit" Json.uint64? default.historyLimit
    debug := ← value.defaulted? "debug" Json.bool? default.debug }

/-- Read the value of a field: that of a setting is read, any other is passed over. -/
def readValue? (name : String) (chars : List Char) : Option (Json × List Char) :=
  if settings.contains name then Json.readValue? (Json.depthLimit - 1) chars
  else (Json.skipValue? chars).map fun rest => (.null, rest)

/-- The configuration that a text holds, and nothing else.  Only an object has values to pass
over. -/
def ofText? (text : String) : Option Config :=
  match Json.skipBlanks text.toList with
  | '{' :: rest => do
    let (value, rest) ← Json.readObject? readValue? rest
    let names := (← value.fields?).map Prod.fst
    if (Json.skipBlanks rest).isEmpty && settings.all fun setting => names.count setting ≤ 1 then
      ofJson? value.arrange
    else none
  | _ => (Json.ofText? text).bind ofJson?

end Config

end Troupe
