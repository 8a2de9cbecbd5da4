import Troupe.Action.Named
import Troupe.Actor
import Troupe.Pass.Basic
import Troupe.Schema.Check
import Troupe.Template

/-!
# The state of a pass

A pass reads the actor's context once and stages all changes on a working copy.  At its end
one update of the context object writes the difference.  A failed action becomes an ERROR
event for the sender of the event and for the actor itself; an ERROR event that fails tells
nobody, so that failures do not feed themselves.
-/

namespace Troupe

/-- Removes what a tool call adds around its result: the result is the structured content, if
there is one, without call metadata. -/
def cleanResult (raw : Json) : Json :=
  let value := match raw with
    | .obj fields => (Assoc.find? "structuredContent" fields).getD (.obj fields)
    | other => other
  match value with
  | .obj fields =>
    .obj (Assoc.erase "isError" (Assoc.erase "toolCallId" (Assoc.erase "_meta" fields)))
  | other => other

/-- The payload that tells of a success: the event's payload with the result added. -/
def successPayload (payload result : Json) : Json :=
  .obj (Assoc.insert "result" result payload.fieldsOf)

/-- What a pass works for: an actor, its named lists and an event. -/
structure Occasion where
  /-- The acting actor. -/
  actor : Actor
  /-- The named lists of its definition. -/
  named : NamedActions
  /-- The event. -/
  event : Event

/-- The state of a pass. -/
structure Activation where
  /-- The context as it was read. -/
  base : Json
  /-- The context with every staged patch. -/
  working : Json
  /-- State name that schema guards see. -/
  state : Option String := none
  /-- How many creates have run. -/
  creates : Nat := 0
  /-- Latest result of an operation or a tool. -/
  result : Json := .null
  /-- Result of the latest invoke. -/
  invoked : Option Json := none
  /-- How many actions have run. -/
  actionsRun : Nat := 0

namespace Activation

/-- The state at the start of a pass over a stored context; what is no object counts as an
empty context. -/
def ofContext (context : Option Json) : Activation :=
  match context with
  | some (.obj fields) => ⟨.obj fields, .obj fields, none, 0, .null, none, 0⟩
  | _ => ⟨.empty, .empty, none, 0, .null, none, 0⟩

/-- Begin a pass: read the context. -/
def begin (occasion : Occasion) : Pass Activation :=
  .read occasion.actor.config.context fun context => .done (ofContext context)

/-- Stage a patch; null removes a field. -/
def stage (activation : Activation) (patch : Json) : Activation :=
  { activation with working := activation.working.merge patch }

/-- Stage the name of a state. -/
def stageState (activation : Activation) (state : String) : Activation :=
  activation.stage (.obj [("state", .str state)])

/-- The scope that expressions see. -/
def scope (activation : Activation) (event : Event) : Json :=
  Template.scope activation.working event.payload activation.result

/-- Resolve a template. -/
def resolve (activation : Activation) (event : Event) (template : Json) :
    Except ActionError Json :=
  (Template.resolve (activation.scope event) template).mapError ActionError.ofExpr

/-- Resolve an optional template; without one the event's payload stands. -/
def resolveOr (activation : Activation) (event : Event) : Option Json → Except ActionError Json
  | some template => activation.resolve event template
  | none => .ok event.payload

/-- The context that schema guards check: with the state name, if there is one. -/
def subject (activation : Activation) : Json :=
  match activation.state with
  | some state => activation.working.setField "state" (.str state)
  | none => activation.working

/-- Whether a guard holds. -/
def holds (activation : Activation) (event : Event) : Guard → Except ActionError Bool
  | .literal holds => .ok holds
  | .schema schema => .ok (Schema.accepts schema activation.subject)
  | .expr template => return (← activation.resolve event template).truthy

/-- Resolve a template to the identifier of an object. -/
def objectId (activation : Activation) (event : Event) (template : Json) :
    Except ActionError Id := do
  let value ← activation.resolve event template
  match value.id? with
  | some id => return id
  | none => throw (.structural s!"{value.text} is not an object id")

/-- The key of the next create: the event's key, from the second create on with a number. -/
def createKey (activation : Activation) (event : Event) : Option String :=
  event.key?.map fun key =>
    if activation.creates = 0 then key
    else
      let number := String.ofList (Nat.toDigits 10 activation.creates)
      s!"{key}:{number}"

/-- The store operation that templates resolve to. -/
def storeOp (activation : Activation) (event : Event) : OpAction → Except ActionError StoreOp
  | .create value => return .create (← activation.resolve event value) (activation.createKey event)
  | .update id patch => do
    let id ← activation.objectId event id
    return .update id (← activation.resolve event patch)
  | .delete id => return .delete (← activation.objectId event id)

/-- The message that templates resolve to. -/
def outbound (activation : Activation) (occasion : Occasion) (send : SendAction) :
    Except ActionError Message := do
  match ← activation.resolve occasion.event send.type with
  | .str type =>
    let payload ← activation.resolve occasion.event send.payload
    return { type, payload, source := some occasion.actor.id }
  | other => throw (.structural s!"event type resolved to {other.text}")

end Activation

namespace Occasion

/-- Who gets a reply: the sender of the event, if it is someone else, and the actor itself. -/
def replyTargets (occasion : Occasion) : List Id :=
  match occasion.event.source with
  | some source =>
    if source = occasion.actor.id then [occasion.actor.id] else [source, occasion.actor.id]
  | none => [occasion.actor.id]

/-- Send a message to each of some actors; one that cannot be delivered is lost. -/
def sendEach (message : Message) : List Id → Pass Unit
  | [] => .done ()
  | target :: rest => .deliver target message fun _ => sendEach message rest

/-- Send a reply that carries the event's correlation. -/
def reply (occasion : Occasion) (type : String) (payload : Json) (automatic : Bool := false) :
    Pass Unit :=
  sendEach
    { type, payload, source := some occasion.actor.id,
      correlation := occasion.event.correlation, automatic }
    occasion.replyTargets

/-- Tell of a failed action. -/
def fail (occasion : Occasion) (error : ActionError) : Pass Unit :=
  if occasion.event.name = errorEvent then .done ()
  else occasion.reply errorEvent error.payload true

/-- Tell the actor itself of a success. -/
def notifySuccess (occasion : Occasion) (result : Json) : Pass Unit :=
  sendEach
    { type := successEvent, payload := successPayload occasion.event.payload result,
      source := some occasion.actor.id, correlation := occasion.event.correlation }
    [occasion.actor.id]

/-- End a pass: write what was staged, in one update of the context.  A refused write is told
to the actor itself. -/
def finish (occasion : Occasion) (activation : Activation) : Pass Unit :=
  .execute (.update occasion.actor.config.context (Json.diff activation.base activation.working))
    fun
    | .ok _ => .done ()
    | .error cause =>
      if occasion.event.name = errorEvent then .done ()
      else
        sendEach
          { type := errorEvent, payload := (ActionError.ofStore cause).payload,
            source := some occasion.actor.id, automatic := true }
          [occasion.actor.id]

end Occasion

end Troupe
