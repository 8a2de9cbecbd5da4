import Troupe.Pass.Activation

/-!
# Running actions

A list of actions runs in order.  A guard in it decides whether the actions up to the next
guard run; a guard that cannot be evaluated, a failed action, an ask and a tool call stop the
pass.  A reference runs the named list in place, with guards of its own.
-/

namespace Troupe

namespace Activation

/-- What one action comes to: whether to go on, and the state after it. -/
abbrev Step := Flow × Activation

/-- Merge the patch that a template resolves to into the context. -/
def runCtx (activation : Activation) (event : Event) (template : Json) :
    Except ActionError Step := do
  match ← activation.resolve event template with
  | .obj patch => return (.proceed, activation.stage (.obj patch))
  | other => throw (.structural s!"context patch resolved to {other.text}")

/-- Carry out a store operation. -/
def runOp (activation : Activation) (event : Event) (op : OpAction) :
    Pass (Except ActionError Step) :=
  match activation.storeOp event op with
  | .error error => .done (.error error)
  | .ok storeOp =>
    let creates := match op with
      | .create _ => activation.creates + 1
      | _ => activation.creates
    .execute storeOp fun
      | .ok result => .done (.ok (.proceed, { activation with creates, result }))
      | .error cause => .done (.error (.ofStore cause))

/-- Send a message with the event's correlation. -/
def runTell (activation : Activation) (occasion : Occasion) (send : SendAction) :
    Pass (Except ActionError Step) :=
  match activation.outbound occasion send with
  | .error error => .done (.error error)
  | .ok message =>
    .deliver send.target { message with correlation := occasion.event.correlation } fun
      | .ok _ => .done (.ok (.proceed, activation))
      | .error error => .done (.error error)

/-- Send a message that wants an answer, if the receiver accepts its event type. -/
def runAsk (activation : Activation) (occasion : Occasion) (send : SendAction) :
    Pass (Except ActionError Step) :=
  match activation.outbound occasion send with
  | .error error => .done (.error error)
  | .ok message =>
    .interfaceOf send.target fun
      | .error error => .done (.error error)
      | .ok accepted =>
        if accepted.contains message.type then
          .registerAsk occasion.actor.id send.target message.type fun correlation =>
            .deliver send.target { message with correlation := some correlation } fun
              | .ok _ => .done (.ok (.stop, activation))
              | .error error => .done (.error error)
        else
          .done (.error (.structural
            s!"actor {send.target.text} does not accept '{message.type}'"))

/-- Run the actor's tool and reply with its result. -/
def runFunction (activation : Activation) (occasion : Occasion) (template : Option Json) :
    Pass (Except ActionError Step) :=
  match occasion.actor.config.function with
  | none => .done (.error (.structural "actor has no attached function"))
  | some tool =>
    match activation.resolveOr occasion.event template with
    | .error error => .done (.error error)
    | .ok payload =>
      .callTool tool ⟨occasion.actor.id, activation.working⟩ payload fun
        | .error cause => .done (.error (.ofTool cause))
        | .ok raw => do
          let result := cleanResult raw
          occasion.reply successEvent (successPayload occasion.event.payload result)
          return .ok (.stop, { activation with result })

/-- Run another actor's tool and keep its result. -/
def runInvoke (activation : Activation) (event : Event) (target : Id) (template : Option Json) :
    Pass (Except ActionError Step) :=
  match activation.resolveOr event template with
  | .error error => .done (.error error)
  | .ok payload =>
    .invoke target payload fun
      | .error error => .done (.error error)
      | .ok raw =>
        let result := cleanResult raw
        .done (.ok (.proceed, { activation with result, invoked := some result }))

/-- Run one action that is neither a guard nor a reference. -/
def perform (activation : Activation) (occasion : Occasion) :
    Action → Pass (Except ActionError Step)
  | .ctx patch => .done (activation.runCtx occasion.event patch)
  | .op op => activation.runOp occasion.event op
  | .tell send => activation.runTell occasion send
  | .ask send => activation.runAsk occasion send
  | .function payload => activation.runFunction occasion payload
  | .invoke target payload => activation.runInvoke occasion.event target payload
  | .guard _ => .done (.ok (.proceed, activation))
  | .named _ => .done (.ok (.proceed, activation))

/-- Stop the pass over a failed action. -/
def failed (activation : Activation) (occasion : Occasion) (error : ActionError) : Pass Step := do
  occasion.fail error
  return (.stop, activation)

/-- Run one action and count it; a failure stops the pass. -/
def runAction (activation : Activation) (occasion : Occasion) (action : Action) : Pass Step := do
  let counted := { activation with actionsRun := activation.actionsRun + 1 }
  match ← counted.perform occasion action with
  | .ok step => return step
  | .error error => counted.failed occasion error

/-- Run one action that is no guard; `call` runs a named list. -/
def runOne (call : String → Activation → Pass Step) (occasion : Occasion) (action : Action)
    (activation : Activation) : Pass Step :=
  match action with
  | .named name => call name activation
  | action => activation.runAction occasion action

/-- Run a list of actions.  `call` runs a named list, and `skipping` says whether the latest
guard did not hold. -/
def runWith (call : String → Activation → Pass Step) (occasion : Occasion) :
    (actions : List Action) → (skipping : Bool) → Activation → Pass Step
  | [], _, activation => .done (.proceed, activation)
  | .guard guard :: rest, _, activation =>
    match activation.holds occasion.event guard with
    | .ok holds => runWith call occasion rest (!holds) activation
    | .error error => activation.failed occasion error
  | action :: rest, skipping, activation =>
    if skipping then runWith call occasion rest true activation
    else do
      match ← runOne call occasion action activation with
      | (.proceed, activation) => runWith call occasion rest false activation
      | (.stop, activation) => return (.stop, activation)

/-- Run a named list; inside it references may nest `levels` deep. -/
def runNamed (occasion : Occasion) : (levels : Nat) → (name : String) → Activation → Pass Step
  | 0, name, activation => activation.failed occasion (.structural s!"unknown named action '{name}'")
  | levels + 1, name, activation =>
    match occasion.named.find? name with
    | some list => runWith (runNamed occasion levels) occasion list false activation
    | none => activation.failed occasion (.structural s!"unknown named action '{name}'")

/-- Run a list of actions.  No named list leads back to itself, so references nest at most as
deep as there are lists. -/
def run (activation : Activation) (occasion : Occasion) (actions : List Action) : Pass Step :=
  runWith (runNamed occasion occasion.named.lists.size) occasion actions false activation

end Activation

end Troupe
