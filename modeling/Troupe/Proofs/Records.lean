import Troupe.Config
import Troupe.Message
import Troupe.Proofs.Actor

/-!
# Records that are read back

Every record reads as it was written.  What is left out when there is nothing to write (an absent
source, an empty table) is read as absent or empty, and what is null reads as null where any value
may stand.  The records of actors are in `Troupe.Proofs.Actor`.

## Main results

* `Message.ofJson?_toJson`, `Entry.ofJson?_toJson`: messages, before and after they are stored;
* `ActorSpec.ofJson?_toJson`, `Config.ofJson?_toJson`: specifications and settings;
* `StoreOp.ofJson?_toJson`: operations on the store;
* `StoreImage.ofJson?_toJson`: images of whole stores.
-/

namespace Troupe

/-! ## Messages -/

namespace Message

lemma field?_toJson (message : Message) (name : String) :
    message.toJson.field? name =
      (if "correlation" = name then message.correlation.map Json.id else none).or
        ((if "source" = name then message.source.map Json.id else none).or
        (Assoc.find? name [("payload", message.payload), ("type", .str message.type)])) := by
  rw [toJson, Json.field?_record]
  simp only [List.reverse_append, Assoc.find?_append, Json.find?_present]
  rfl

/-- A message reads as it was written.  That the runtime sent it by itself is not written. -/
theorem ofJson?_toJson (message : Message) : ofJson? message.toJson = some message.plain := by
  have field := field?_toJson message
  have type : message.toJson.required? "type" Json.string? = some message.type :=
    Json.required?_of_field? (by simp [field, Assoc.find?_cons]) (Json.string?_str message.type)
  have payload : message.toJson.required? "payload" Json.any? = some message.payload :=
    Json.required?_of_field? (by simp [field, Assoc.find?_cons]) rfl
  have source : message.toJson.optional? "source" Json.id? = some message.source :=
    Json.optional?_of_field? (by simp [field, Assoc.find?_cons]) Json.id?_id Json.id_ne_null
  have correlation : message.toJson.optional? "correlation" Json.id? = some message.correlation :=
    Json.optional?_of_field? (by simp [field, Assoc.find?_cons]) Json.id?_id Json.id_ne_null
  have named : message.toJson.named? ["type", "payload", "source", "correlation"] =
      some message.toJson := rfl
  simp only [ofJson?, named, type, payload, source, correlation, Option.bind_eq_bind,
    Option.bind_some]
  rfl

end Message

namespace Entry

lemma field?_toJson (entry : Entry) (name : String) :
    entry.toJson.field? name =
      (if "correlation" = name then entry.correlation.map Json.id else none).or
        ((if "source" = name then entry.source.map Json.id else none).or
        (Assoc.find? name [("processed", .bool entry.processed), ("target", .id entry.target),
          ("payload", entry.payload), ("type", .str entry.type)])) := by
  rw [toJson, Json.field?_record]
  simp only [List.reverse_append, Assoc.find?_append, Json.find?_present]
  rfl

/-- A stored message reads as it was written. -/
theorem ofJson?_toJson (entry : Entry) : ofJson? entry.toJson = some entry := by
  have field := field?_toJson entry
  have type : entry.toJson.required? "type" Json.string? = some entry.type :=
    Json.required?_of_field? (by simp [field, Assoc.find?_cons]) (Json.string?_str entry.type)
  have payload : entry.toJson.required? "payload" Json.any? = some entry.payload :=
    Json.required?_of_field? (by simp [field, Assoc.find?_cons]) rfl
  have source : entry.toJson.optional? "source" Json.id? = some entry.source :=
    Json.optional?_of_field? (by simp [field, Assoc.find?_cons]) Json.id?_id Json.id_ne_null
  have target : entry.toJson.required? "target" Json.id? = some entry.target :=
    Json.required?_of_field? (by simp [field, Assoc.find?_cons]) (Json.id?_id entry.target)
  have correlation : entry.toJson.optional? "correlation" Json.id? = some entry.correlation :=
    Json.optional?_of_field? (by simp [field, Assoc.find?_cons]) Json.id?_id Json.id_ne_null
  have processed : entry.toJson.field? "processed" = some (.bool entry.processed) := by
    simp [field, Assoc.find?_cons]
  have named : entry.toJson.named?
      ["type", "payload", "source", "target", "correlation", "processed"] = some entry.toJson := rfl
  simp only [ofJson?, named, type, payload, source, target, correlation,
    Json.required?_of_field? processed (Json.bool?_bool entry.processed), Option.bind_eq_bind,
    Option.bind_some]
  rfl

end Entry

/-! ## Specifications and settings -/

namespace ActorSpec

/-- A specification reads as it was written. -/
theorem ofJson?_toJson (spec : ActorSpec) : ofJson? spec.toJson = some spec := by
  have field (name : String) := Json.field?_record
    [("interface", .strings spec.interface), ("behavior", spec.behavior),
      ("context", spec.context), ("function", (spec.function.map Json.str).getD .null),
      ("children", .table .id spec.children),
      ("schemas", .table (fun schema => schema) spec.schemas)] name
  rw [← toJson] at field
  have interface : spec.toJson.required? "interface" Json.strings? = some spec.interface :=
    Json.required?_of_field? (by simp [field, Assoc.find?_cons])
      (Json.strings?_strings spec.interface)
  have behavior : spec.toJson.required? "behavior" Json.any? = some spec.behavior :=
    Json.required?_of_field? (by simp [field, Assoc.find?_cons]) rfl
  have context : spec.toJson.defaulted? "context" Json.any? .empty = some spec.context :=
    Json.defaulted?_of_field? (by simp [field, Assoc.find?_cons]) rfl
  have children : spec.toJson.defaulted? "children" (Json.table? Json.id?) ∅ =
      some spec.children :=
    Json.defaulted?_of_field? (by simp [field, Assoc.find?_cons])
      (Json.table?_table Json.id?_id spec.children)
  have schemas : spec.toJson.defaulted? "schemas" (Json.table? Json.any?) ∅ = some spec.schemas :=
    Json.defaulted?_of_field? (by simp [field, Assoc.find?_cons])
      (Json.table?_table (fun _ => rfl) spec.schemas)
  -- an absent tool is written as null
  have function : spec.toJson.optional? "function" Json.string? = some spec.function := by
    cases tool : spec.function with
    | none => simp [Json.optional?, field, Assoc.find?_cons, tool]
    | some text => simp [Json.optional?, field, Assoc.find?_cons, tool, Json.string?]
  have named : spec.toJson.named?
      ["interface", "behavior", "context", "function", "children", "schemas"] =
      some spec.toJson := rfl
  simp only [ofJson?, named, interface, behavior, context, function, children, schemas,
    Option.bind_eq_bind, Option.bind_some]
  rfl

end ActorSpec

namespace Config

/-- A configuration reads as it was written. -/
theorem ofJson?_toJson (config : Config) : ofJson? config.toJson = some config := by
  have field (name : String) := Json.field?_record
    [("ask_timeout_ms", .count config.askTimeout.toNat),
      ("suppressed_states", .strings config.suppressedStates),
      ("mutation_event", .str config.mutationEvent),
      ("history_limit", .count config.historyLimit.toNat),
      ("debug", .bool config.debug)] name
  rw [← toJson] at field
  have askTimeout (default : UInt64) :
      config.toJson.defaulted? "ask_timeout_ms" Json.uint64? default = some config.askTimeout :=
    Json.defaulted?_of_field? (by simp [field, Assoc.find?_cons])
      (Json.uint64?_count config.askTimeout)
  have suppressedStates (default : List String) :
      config.toJson.defaulted? "suppressed_states" Json.strings? default =
        some config.suppressedStates :=
    Json.defaulted?_of_field? (by simp [field, Assoc.find?_cons])
      (Json.strings?_strings config.suppressedStates)
  have mutationEvent (default : String) :
      config.toJson.defaulted? "mutation_event" Json.string? default = some config.mutationEvent :=
    Json.defaulted?_of_field? (by simp [field, Assoc.find?_cons])
      (Json.string?_str config.mutationEvent)
  have historyLimit (default : UInt64) :
      config.toJson.defaulted? "history_limit" Json.uint64? default = some config.historyLimit :=
    Json.defaulted?_of_field? (by simp [field, Assoc.find?_cons])
      (Json.uint64?_count config.historyLimit)
  have debug (default : Bool) :
      config.toJson.defaulted? "debug" Json.bool? default = some config.debug :=
    Json.defaulted?_of_field? (by simp [field, Assoc.find?_cons]) (Json.bool?_bool config.debug)
  have named : config.toJson.named? settings = some config.toJson := rfl
  simp only [ofJson?, named, askTimeout, suppressedStates, mutationEvent, historyLimit, debug,
    Option.bind_eq_bind, Option.bind_some]
  rfl

end Config

/-! ## The store -/

namespace StoreOp

/-- The word of an operation is the name that its record gives. -/
lemma nameOf?_toJson (op : StoreOp) : nameOf? op.toJson = some op.name := by
  have word : op.toJson.field? "op" = some (.str op.name) := by
    cases op <;> simp [toJson, Json.field?_record, Assoc.find?_append, Json.find?_present,
      Assoc.find?_cons]
  exact Json.required?_of_field? word (Json.string?_str op.name)

/-- An operation reads as it was written. -/
theorem ofJson?_toJson (op : StoreOp) : ofJson? op.toJson = some op := by
  have word := nameOf?_toJson op
  cases op with
  | create value key =>
    have content : (create value key).toJson.required? "value" Json.any? = some value :=
      Json.required?_of_field? (by simp [toJson, Json.field?_record, Assoc.find?_append,
        Json.find?_present, Assoc.find?_cons]) rfl
    have given : (create value key).toJson.field? "idempotencyKey" = key.map .str := by
      simp [toJson, Json.field?_record, Assoc.find?_append, Json.find?_present, Assoc.find?_cons]
    have named : (create value key).toJson.named? ["op", "value", "idempotencyKey"] =
        some (create value key).toJson := rfl
    simp only [ofJson?, word, name, named, content,
      Json.optional?_of_field? given Json.string?_str (by simp), Option.bind_eq_bind, Option.bind_some]
    rfl
  | update id patch =>
    simp only [ofJson?, word, name, Option.bind_eq_bind, Option.bind_some]
    simp [toJson, Json.named?_record, Json.required?, Json.field?_record, Assoc.find?_cons,
      Json.id?_id, Json.any?]
  | delete id =>
    simp only [ofJson?, word, name, Option.bind_eq_bind, Option.bind_some]
    simp [toJson, Json.named?_record, Json.required?, Json.field?_record, Assoc.find?_cons,
      Json.id?_id]
  | push id field item =>
    simp only [ofJson?, word, name, Option.bind_eq_bind, Option.bind_some]
    simp [toJson, Json.named?_record, Json.required?, Json.field?_record, Assoc.find?_cons,
      Json.id?_id, Json.string?_str, Json.any?]

end StoreOp

namespace StoreImage

/-- The objects of an image are read under the identifiers under which they were written. -/
lemma objects?_obj (objects : Table Id Json) :
    objects? (.obj (objects.entries.map fun entry => (entry.1.text, entry.2))) = some objects := by
  have entries : (objects.entries.map fun entry => (entry.1.text, entry.2)).mapM
      (fun field => (Id.ofText? field.1).map fun id => (id, field.2)) = some objects.entries :=
    Json.mapM_map_of_inverse (fun entry => by rw [Id.ofText?_text]; rfl) objects.entries
  simp only [objects?, Json.fields?, Option.bind_eq_bind, Option.bind_some, entries,
    Option.pure_def, Table.ofList_entries]

/-- An image reads as it was written. -/
theorem ofJson?_toJson (image : StoreImage) : ofJson? image.toJson = some image := by
  have field (name : String) := Json.field?_record
    [("objects", .obj (image.objects.entries.map fun entry => (entry.1.text, entry.2))),
      ("idempotency", .table .id image.keys)] name
  rw [← toJson] at field
  have objects : image.toJson.required? "objects" objects? = some image.objects :=
    Json.required?_of_field? (by simp [field, Assoc.find?_cons]) (objects?_obj image.objects)
  have keys : image.toJson.required? "idempotency" (Json.table? Json.id?) = some image.keys :=
    Json.required?_of_field? (by simp [field, Assoc.find?_cons])
      (Json.table?_table Json.id?_id image.keys)
  have named : image.toJson.named? ["objects", "idempotency"] = some image.toJson := rfl
  simp only [ofJson?, named, objects, keys, Option.bind_eq_bind, Option.bind_some]
  rfl

end StoreImage

end Troupe
