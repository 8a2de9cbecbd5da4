import Troupe.Error
import Troupe.Json.Decode

/-!
# Actions

A handler, a transition and the entry and exit of a state are lists of actions.  An action is
an object with exactly one field, whose name is its tag; a bare text refers to a named list.
Everything is checked when a definition is loaded, so that running an action never meets a
malformed one.
-/

namespace Troupe

/-- A condition that gates the actions up to the next one. -/
inductive Guard where
  /-- A fixed outcome. -/
  | literal (holds : Bool)
  /-- The context conforms to a schema. -/
  | schema (schema : Json)
  /-- An expression counts as true. -/
  | expr (template : Json)

/-- The templates of a store operation. -/
inductive OpAction where
  /-- Make an object. -/
  | create (value : Json)
  /-- Merge a patch into an object. -/
  | update (id patch : Json)
  /-- Drop an object. -/
  | delete (id : Json)

/-- What is sent to whom. -/
structure SendAction where
  /-- The receiver. -/
  target : Id
  /-- Template of the event type. -/
  type : Json
  /-- Template of the payload. -/
  payload : Json

/-- An action. -/
inductive Action where
  /-- Merge a patch into the context. -/
  | ctx (patch : Json)
  /-- Carry out a store operation. -/
  | op (op : OpAction)
  /-- Send a message. -/
  | tell (send : SendAction)
  /-- Send a message that wants an answer, and stop. -/
  | ask (send : SendAction)
  /-- Run the actor's tool and stop; without a template it gets the event's payload. -/
  | function (payload : Option Json)
  /-- Gate the actions up to the next guard. -/
  | guard (guard : Guard)
  /-- Run a named list. -/
  | named (name : String)
  /-- Run another actor's tool and go on. -/
  | invoke (target : Id) (payload : Option Json)

namespace Guard

/-- A guard as a record that names its kind. -/
def toJson : Guard → Json
  | .literal holds => .record [("literal", .bool holds)]
  | .schema content => .record [("schema", content)]
  | .expr template => .record [("expr", template)]

/-- Read a guard: a truth value, an object with nothing but a schema, or an expression. -/
def ofJson (value : Json) : Except ConfigError Guard :=
  match value with
  | .bool holds => .ok (.literal holds)
  | .obj [("schema", content)] =>
    match content with
    | .obj _ | .bool _ => .ok (.schema content)
    | _ => .error (.invalidAction .guard "schema must be an object or boolean")
  | value =>
    let isExpr := match value with
      | .str text => text.toList.head? == some '$'
      | _ => false
    if isExpr then .ok (.expr value)
    else
      .error (.invalidAction .guard
        ("expected a boolean, \x7bschema\x7d or expression, found " ++ value.text))

end Guard

namespace OpAction

/-- A store operation with its templates, under its name. -/
def field : OpAction → String × Json
  | .create value => ("create", value)
  | .update id patch => ("update", .record [("id", id), ("patch", patch)])
  | .delete id => ("delete", .record [("id", id)])

end OpAction

namespace SendAction

/-- What is sent to whom, as fields. -/
def fields (send : SendAction) : List (String × Json) :=
  [("target", .id send.target), ("type", send.type), ("payload", send.payload)]

end SendAction

namespace Action

/-- The tag of an action. -/
def tag : Action → ActionTag
  | .ctx _ => .ctx
  | .op _ => .op
  | .tell _ => .tell
  | .ask _ => .ask
  | .function _ => .function
  | .guard _ => .guard
  | .named _ => .named
  | .invoke .. => .invoke

/-- An action as a record with its tag and its parts; a payload that is left out is no part. -/
def toJson (action : Action) : Json :=
  .record (("tag", .str action.tag.name) :: match action with
    | .ctx patch => [("patch", patch)]
    | .op storeOp => [storeOp.field]
    | .tell send | .ask send => send.fields
    | .function payload => Json.present "payload" (fun template => template) payload
    | .guard condition => [("guard", condition.toJson)]
    | .named name => [("name", .str name)]
    | .invoke target payload =>
      ("target", .id target) :: Json.present "payload" (fun template => template) payload)

/-- Read the receiver of an action: an identifier, given literally. -/
def targetOf (tag : ActionTag) (fields : List (String × Json)) : Except ConfigError Id :=
  match Assoc.find? "target" fields with
  | none => .error (.invalidAction tag "missing target")
  | some target =>
    match target.id? with
    | some id => .ok id
    | none =>
      .error (.invalidAction tag
        s!"target must be a literal actor identifier, found {target.text}")

/-- Read what is sent to whom. -/
def sendOf (tag : ActionTag) (body : Json) : Except ConfigError SendAction :=
  match body with
  | .obj fields =>
    match Assoc.find? "type" fields with
    | some (.str type) => do
      let target ← targetOf tag fields
      return ⟨target, .str type, (Assoc.find? "payload" fields).getD .empty⟩
    | _ => .error (.invalidAction tag "missing event type")
  | _ => .error (.invalidAction tag "config must be an object")

/-- Read a store operation: an object with one field, named for the operation. -/
def opOf (body : Json) : Except ConfigError OpAction :=
  match body with
  | .obj [(kind, content)] =>
    let part (name : String) : Except ConfigError Json :=
      match content.field? name with
      | some value => .ok value
      | none => .error (.invalidAction .op s!"{kind} requires '{name}'")
    match kind with
    | "create" => .ok (.create content)
    | "update" => do return .update (← part "id") (← part "patch")
    | "delete" => do return .delete (← part "id")
    | other => .error (.invalidAction .op s!"unknown operation '{other}'")
  | _ => .error (.invalidAction .op "expected exactly one of create, update, delete")

/-- Read the payload template of a tool call: null and `true` stand for none. -/
def payloadOf (tag : ActionTag) (body : Json) : Except ConfigError (Option Json) :=
  match body with
  | .null => .ok none
  | .bool true => .ok none
  | .obj fields =>
    if fields.any fun field => field.1 != "payload" then
      .error (.invalidAction tag "only 'payload' may be configured")
    else .ok (Assoc.find? "payload" fields)
  | other => .error (.invalidAction tag s!"unexpected config {other.text}")

/-- Read an action from its tag and the value under it. -/
def ofTag (tag : ActionTag) (body : Json) : Except ConfigError Action :=
  match tag with
  | .ctx =>
    if body.isObject then .ok (.ctx body)
    else .error (.invalidAction .ctx "patch must be an object")
  | .op => return .op (← opOf body)
  | .tell => return .tell (← sendOf .tell body)
  | .ask => return .ask (← sendOf .ask body)
  | .function => return .function (← payloadOf .function body)
  | .guard => return .guard (← Guard.ofJson body)
  | .named =>
    match body with
    | .str name => .ok (.named name)
    | _ => .error (.invalidAction .named "reference must be a string")
  | .invoke =>
    match body with
    | .obj fields => do
      let target ← targetOf .invoke fields
      return .invoke target (Assoc.find? "payload" fields)
    | _ => .error (.invalidAction .invoke "config must be an object")

/-- Read one action. -/
def ofJson (value : Json) : Except ConfigError Action :=
  match value with
  | .str name => .ok (.named name)
  | .obj fields =>
    let names := fields.map Prod.fst
    let shape : ConfigError := .actionShape ("[" ++ String.intercalate ", " names ++ "]")
    match fields with
    | [(name, body)] =>
      match ActionTag.ofName? name with
      | some tag => ofTag tag body
      | none => .error shape
    | _ => .error shape
  | other => .error (.actionShape other.text)

/-- Read a list of actions; a single action stands for a list of one, nothing or null for an
empty list. -/
def listOf (value : Option Json) : Except ConfigError (List Action) :=
  match value with
  | none => .ok []
  | some .null => .ok []
  | some (.arr items) => items.mapM ofJson
  | some single => return [← ofJson single]

end Action

end Troupe
