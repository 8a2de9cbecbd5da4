import Troupe.Actor
import Troupe.Proofs.Store.Reload

/-!
# Records of actors

A configuration is written as a record, without what it lacks, and read from one.

## Main results

* `ActorConfig.ofJson?_toJson`: a configuration is read from its record;
* `ActorConfig.fixed_toJson`: the record itself reads as it was written, in a saved store.
-/

namespace Troupe

namespace ActorConfig

lemma find?_tableField {α : Type} (name key : String) (encode : α → Json)
    (table : Table String α) : Assoc.find? key (tableField name encode table).reverse =
      if name = key ∧ table.entries ≠ [] then some (.table encode table) else none := by
  unfold tableField
  cases empty : table.entries with
  | nil => simp
  | cons entry rest => simp [Assoc.find?_cons]

lemma mem_tableField {α : Type} {name : String} {encode : α → Json} {table : Table String α}
    {field : String × Json} (mem : field ∈ tableField name encode table) :
    field = (name, .table encode table) := by
  unfold tableField at mem
  split at mem
  · cases mem
  · exact List.mem_singleton.1 mem

/-- A table that was left out, or that reads as it was written. -/
lemma defaulted?_tableField {α : Type} {encode : α → Json} {decode : Json → Option α}
    (inverse : ∀ value, decode (encode value) = some value) {value : Json} {name : String}
    {table : Table String α}
    (found : value.field? name = Assoc.find? name (tableField name encode table).reverse) :
    value.defaulted? name (Json.table? decode) ∅ = some table := by
  rw [Json.defaulted?, found, find?_tableField]
  by_cases empty : table.entries = []
  · obtain ⟨entries, sorted⟩ := table
    cases empty
    simp only [ne_eq, not_true_eq_false, and_false, if_false]
    rfl
  · rw [if_pos ⟨rfl, empty⟩]
    exact Json.table?_table inverse table

/-- The fields of the record of a configuration. -/
lemma field?_toJson (config : ActorConfig) (name : String) :
    config.toJson.field? name =
      ((Assoc.find? name (tableField "schemas" (fun schema => schema) config.schemas).reverse).or
        (Assoc.find? name (tableField "children" .id config.children).reverse)).or
        ((Assoc.find? name (Json.present "function" .str config.function).reverse).or
        (Assoc.find? name [("behavior", config.behavior), ("context", .id config.context),
          ("inbox", .id config.inbox), ("interface", .strings config.interface)])) := by
  rw [toJson, Json.field?_record]
  simp only [List.reverse_append, Assoc.find?_append, Option.or_assoc]
  rfl

/-- A configuration reads as it was written. -/
theorem ofJson?_toJson (config : ActorConfig) : ofJson? config.toJson = some config := by
  have field := field?_toJson config
  simp only [Json.find?_present, find?_tableField] at field
  have interface : config.toJson.required? "interface" Json.strings? = some config.interface :=
    Json.required?_of_field? (by simp [field, Assoc.find?_cons])
      (Json.strings?_strings config.interface)
  have inbox : config.toJson.required? "inbox" Json.id? = some config.inbox :=
    Json.required?_of_field? (by simp [field, Assoc.find?_cons]) (Json.id?_id config.inbox)
  have context : config.toJson.required? "context" Json.id? = some config.context :=
    Json.required?_of_field? (by simp [field, Assoc.find?_cons]) (Json.id?_id config.context)
  have behavior : config.toJson.required? "behavior" Json.any? = some config.behavior :=
    Json.required?_of_field? (by simp [field, Assoc.find?_cons]) rfl
  have function : config.toJson.field? "function" = config.function.map .str := by
    simp [field, Assoc.find?_cons]
  have children : config.toJson.defaulted? "children" (Json.table? Json.id?) ∅ =
      some config.children :=
    defaulted?_tableField Json.id?_id (by rw [field, find?_tableField]; simp [Assoc.find?_cons])
  have schemas : config.toJson.defaulted? "schemas" (Json.table? Json.any?) ∅ =
      some config.schemas :=
    defaulted?_tableField (fun _ => rfl) (by rw [field, find?_tableField]; simp [Assoc.find?_cons])
  have named : config.toJson.named?
      ["interface", "inbox", "context", "behavior", "function", "children", "schemas"] =
      some config.toJson := rfl
  simp only [ofJson?, named, interface, inbox, context, behavior, children, schemas,
    Json.optional?_of_field? function Json.string?_str (by simp), Option.bind_eq_bind,
    Option.bind_some]
  rfl

/-- The inbox that a record names is that of the configuration. -/
lemma inboxOf?_toJson (config : ActorConfig) : inboxOf? config.toJson = some config.inbox := by
  rw [inboxOf?, field?_toJson, Json.find?_present, find?_tableField, find?_tableField]
  simpa [Assoc.find?_cons] using Json.id?_id config.inbox

/-- A record reads as it was written if its behavior and its schemas do. -/
theorem fixed_toJson {config : ActorConfig} (behavior : config.behavior.Fixed)
    (schemas : ∀ event schema, config.schemas.find? event = some schema → schema.Fixed) :
    config.toJson.Fixed := by
  refine Json.fixed_record fun field mem => ?_
  simp only [List.mem_append, List.mem_cons, List.not_mem_nil, or_false] at mem
  rcases mem with (((rfl | rfl | rfl | rfl) | mem) | mem) | mem
  · refine Json.fixed_arr fun item mem => ?_
    obtain ⟨text, -, rfl⟩ := List.mem_map.1 mem
    exact Json.fixed_str text
  · exact Json.fixed_str _
  · exact Json.fixed_str _
  · exact behavior
  · cases named : config.function with
    | none => simp [named, Json.present] at mem
    | some tool =>
      rw [named, Json.present, List.mem_singleton] at mem
      exact mem ▸ Json.fixed_str tool
  · cases mem_tableField mem
    exact Json.fixed_table fun _ _ _ => Json.fixed_str _
  · cases mem_tableField mem
    exact Json.fixed_table schemas

end ActorConfig

end Troupe
