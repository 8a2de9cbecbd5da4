import Troupe.Proofs.Behavior.StateField
import Troupe.Proofs.Pass.Reports
import Troupe.Proofs.Pass.Stamps
import Troupe.Proofs.World.Keeps
import Troupe.Proofs.World.Runs

/-!
# How far a pass has come

While a pass runs, it gets from request to request: `Engine.GetsTo` relates it, and the state in
which it runs, to what is left of it later and the state at that time.  So something can be said of
the point at which an action runs, or at which a message is sent.

An action list stops for one of three reasons: an ask was sent, the actor's tool was run, or
something failed.  In the last two cases the pass serves its event (`Engine.Serves`): whoever sent
the event is told of the result or of the failure, before anyone else is.

## Main results

* `Engine.GetsTo.conveys`: what a message carries at the time that a pass sends it;
* `Engine.run_stops`: why a list of actions stops;
* `Engine.serves_of_stop`: a pass in which one stops that does not ask serves its event;
* `Engine.Serves.answers`: a pass that serves its event answers it.
-/

namespace Troupe

open Pass

namespace Engine

variable {engine : Engine} {actor : Id} {α β : Type}

/-- What an engine runs as a pass of an actor is later, in another state, what is left of it. -/
inductive GetsTo (engine : Engine) (actor : Id) {α : Type} :
    Pass α → World → Pass α → World → Prop
  /-- Nothing has happened yet. -/
  | here (pass : Pass α) (world : World) : GetsTo engine actor pass world pass world
  /-- An object has been read. -/
  | read {id : Id} {next : Option Json → Pass α} {world middle : World} {rest : Pass α} :
    GetsTo engine actor (next (world.store.read id)) world rest middle →
    GetsTo engine actor (.read id next) world rest middle
  /-- A store operation has been carried out. -/
  | execute {op : StoreOp} {next : Except StoreError Json → Pass α} {world middle : World}
    {rest : Pass α} :
    GetsTo engine actor (next (world.write op).1) (world.write op).2 rest middle →
    GetsTo engine actor (.execute op next) world rest middle
  /-- A tool has returned. -/
  | callTool {name : String} {view : ActorView} {payload : Json}
    {next : Except ToolError Json → Pass α} {world later middle : World} {rest : Pass α}
    {answer : Except ToolError Json}
    (called : engine.callTool name view payload world = .ok answer later) :
    GetsTo engine actor (next answer) later rest middle →
    GetsTo engine actor (.callTool name view payload next) world rest middle
  /-- A message has been sent. -/
  | deliver {target : Id} {message : Message} {next : Except ActionError Id → Pass α}
    {world later middle : World} {rest : Pass α} {answer : Except RuntimeError Id}
    (posted : engine.post target message world = .ok answer later) :
    GetsTo engine actor (next (answer.mapError ActionError.ofRuntime)) later rest middle →
    GetsTo engine actor (.deliver target message next) world rest middle
  /-- The event types of an actor have been read. -/
  | interfaceOf {target : Id} {next : Except ActionError (List String) → Pass α}
    {world middle : World} {rest : Pass α} :
    GetsTo engine actor (next (world.interfaceOf target)) world rest middle →
    GetsTo engine actor (.interfaceOf target next) world rest middle
  /-- An ask has been noted. -/
  | registerAsk {asker target : Id} {event : String} {next : Id → Pass α} {world middle : World}
    {rest : Pass α} :
    GetsTo engine actor (next (world.registerAsk asker target event).1)
      (world.registerAsk asker target event).2 rest middle →
    GetsTo engine actor (.registerAsk asker target event next) world rest middle
  /-- Another actor's tool has returned. -/
  | invoke {target : Id} {payload : Json} {next : Except ActionError Json → Pass α}
    {world later middle : World} {rest : Pass α} {answer : Except ActionError Json}
    (invoked : engine.invoke target payload world = .ok answer later) :
    GetsTo engine actor (next answer) later rest middle →
    GetsTo engine actor (.invoke target payload next) world rest middle
  /-- Something has been remembered. -/
  | remember {memory : Memory} {next : Pass α} {world middle : World} {rest : Pass α} :
    GetsTo engine actor next (world.remember actor memory) rest middle →
    GetsTo engine actor (.remember memory next) world rest middle

namespace GetsTo

variable {pass rest last : Pass α} {world middle later : World}

protected lemma trans (first : engine.GetsTo actor pass world rest middle)
    (second : engine.GetsTo actor rest middle last later) :
    engine.GetsTo actor pass world last later := by
  induction first with
  | here => exact second
  | read _ ih => exact .read (ih second)
  | execute _ ih => exact .execute (ih second)
  | callTool called _ ih => exact .callTool called (ih second)
  | deliver posted _ ih => exact .deliver posted (ih second)
  | interfaceOf _ ih => exact .interfaceOf (ih second)
  | registerAsk _ ih => exact .registerAsk (ih second)
  | invoke invoked _ ih => exact .invoke invoked (ih second)
  | remember _ ih => exact .remember (ih second)

/-- What follows a pass does not matter to how it begins. -/
lemma bind (gets : engine.GetsTo actor pass world rest middle) (next : α → Pass β) :
    engine.GetsTo actor (pass >>= next) world (rest >>= next) middle := by
  induction gets with
  | here => exact .here _ _
  | read _ ih => exact .read ih
  | execute _ ih => exact .execute ih
  | callTool called _ ih => exact .callTool called ih
  | deliver posted _ ih => exact .deliver posted ih
  | interfaceOf _ ih => exact .interfaceOf ih
  | registerAsk _ ih => exact .registerAsk ih
  | invoke invoked _ ih => exact .invoke invoked ih
  | remember _ ih => exact .remember ih

/-- A pass comes to what the rest of it comes to. -/
lemma runPass_eq (gets : engine.GetsTo actor pass world rest middle) :
    engine.runPass actor pass world = engine.runPass actor rest middle := by
  induction gets with
  | here => rfl
  | read _ ih => exact ih
  | execute _ ih => exact ih
  | callTool called _ ih => exact (Run.bind_of_ok called).trans ih
  | deliver posted _ ih => exact (Run.bind_of_ok posted).trans ih
  | interfaceOf _ ih => exact ih
  | registerAsk _ ih => exact ih
  | invoke invoked _ ih => exact (Run.bind_of_ok invoked).trans ih
  | remember _ ih => exact ih

/-- What is left of a pass makes no other requests. -/
lemma only {P : Request → Prop} (gets : engine.GetsTo actor pass world rest middle)
    (only : pass.Only P) : rest.Only P := by
  induction gets with
  | here => exact only
  | remember _ ih => exact ih only.2
  | read _ ih => exact ih (only.2 _)
  | execute _ ih => exact ih (only.2 _)
  | callTool _ _ ih => exact ih (only.2 _)
  | deliver _ _ ih => exact ih (only.2 _)
  | interfaceOf _ ih => exact ih (only.2 _)
  | registerAsk _ ih => exact ih (only.2 _)
  | invoke _ _ ih => exact ih (only.2 _)

/-- What is left of a pass comes to no other results. -/
lemma ensures {Q : α → Prop} (gets : engine.GetsTo actor pass world rest middle)
    (ensures : pass.Ensures Q) : rest.Ensures Q := by
  induction gets with
  | here => exact ensures
  | remember _ ih => exact ih ensures
  | read _ ih => exact ih (ensures _)
  | execute _ ih => exact ih (ensures _)
  | callTool _ _ ih => exact ih (ensures _)
  | deliver _ _ ih => exact ih (ensures _)
  | interfaceOf _ ih => exact ih (ensures _)
  | registerAsk _ ih => exact ih (ensures _)
  | invoke _ _ ih => exact ih (ensures _)

/-- A pass that returns gets to its end. -/
lemma of_ok {result : α} (ran : engine.runPass actor pass world = .ok result later) :
    engine.GetsTo actor pass world (.done result) later := by
  induction pass generalizing world with
  | done value =>
    cases ran
    exact .here _ _
  | read id next ih => exact .read (ih _ ran)
  | execute op next ih => exact .execute (ih _ ran)
  | callTool name view payload next ih =>
    obtain ⟨answer, middle, called, goesOn⟩ := Run.ok_of_bind ran
    exact .callTool called (ih _ goesOn)
  | deliver target message next ih =>
    obtain ⟨answer, middle, posted, goesOn⟩ := Run.ok_of_bind ran
    exact .deliver posted (ih _ goesOn)
  | interfaceOf target next ih => exact .interfaceOf (ih _ ran)
  | registerAsk asker target event next ih => exact .registerAsk (ih _ ran)
  | invoke target payload next ih =>
    obtain ⟨answer, middle, invoked, goesOn⟩ := Run.ok_of_bind ran
    exact .invoke invoked (ih _ goesOn)
  | remember memory next ih => exact .remember (ih ran)

/-- A pass gets on by steps. -/
lemma bySteps (bySteps : engine.BySteps) (gets : engine.GetsTo actor pass world rest middle)
    (asks : pass.AsksAs actor) (runs : world.running.contains actor) :
    World.Steps world middle ∧ world.Nests middle := by
  induction gets with
  | here => exact ⟨.refl, .refl _⟩
  | read _ ih => exact ih (asks.2 _) runs
  | interfaceOf _ ih => exact ih (asks.2 _) runs
  | @execute op next world middle rest _ ih =>
    have nests := (world.write_storeFrame op).nests
    have later := ih (asks.2 _) (nests.contains runs)
    exact ⟨.head (.write world op) later.1, nests.trans later.2⟩
  | callTool called _ ih =>
    obtain ⟨steps, nests⟩ := (callTool_bySteps bySteps _ _ _ _).ok called
    have later := ih (asks.2 _) (nests.contains runs)
    exact ⟨steps.trans later.1, nests.trans later.2⟩
  | deliver posted _ ih =>
    obtain ⟨steps, nests⟩ := (post_bySteps bySteps _ _ _).ok posted
    have later := ih (asks.2 _) (nests.contains runs)
    exact ⟨steps.trans later.1, nests.trans later.2⟩
  | @registerAsk asker target event next world middle rest _ ih =>
    obtain rfl : asker = actor := asks.1
    have nests := registerAsk_nests world asker target event
    have later := ih (asks.2 _) (nests.contains runs)
    exact ⟨.head (.ask target event runs) later.1, nests.trans later.2⟩
  | invoke invoked _ ih =>
    obtain ⟨steps, nests⟩ := (invoke_bySteps bySteps _ _ _).ok invoked
    have later := ih (asks.2 _) (nests.contains runs)
    exact ⟨steps.trans later.1, nests.trans later.2⟩
  | @remember memory next world middle rest _ ih =>
    have nests := remember_nests world actor memory
    have later := ih asks.2 (nests.contains runs)
    exact ⟨.head (.remember world actor memory) later.1, nests.trans later.2⟩

end GetsTo

end Engine

/-! ## What messages carry -/

/-- A message that is about to be sent in a state is from the actor, and either it is told, with one
of some correlations, or it is a request, if there may be any, that has just been entered. -/
inductive World.Conveys (world : World) (actor : Id) (told : Option Id → Prop) (asks : Prop)
    (target : Id) (message : Message) : Prop
  /-- It is told. -/
  | told (source : message.source = some actor) (carries : told message.correlation)
  /-- It carries a new correlation, under which it now waits, in the name of the actor. -/
  | asked {before : World} {noted : Id} {ask : PendingAsk} (may : asks)
    (source : message.source = some actor) (carries : message.correlation = some noted)
    (entered : world = (before.registerAsk actor target message.type).2)
    (new : world.correlations.Fresh → ¬ before.correlations.Minted noted)
    (waits : world.pending.find? noted = some ask) (asker : ask.asker = actor)
    (target : ask.target = target) (event : ask.event = message.type)

namespace World

variable {world : World} {actor target : Id} {told : Option Id → Prop} {asks : Prop}

/-- A request that has been noted waits under a new correlation. -/
lemma conveys_registerAsk (world : World) {message : Message} (may : asks)
    (source : message.source = some actor) :
    (world.registerAsk actor target message.type).2.Conveys actor told asks target
      { message with correlation := some (world.registerAsk actor target message.type).1 } := by
  have waits := Table.find?_insert world.pending world.correlations.next world.correlations.next
    ⟨actor, target, message.type,
      (world.clock.later? world.clock.now world.askTimeout).getD world.clock.latest⟩
  rw [if_pos rfl] at waits
  exact .asked may source rfl rfl (fun fresh minted => minted.ne_next fresh rfl) waits rfl rfl rfl

end World

namespace Engine

variable {engine : Engine} {actor : Id} {told : Option Id → Prop} {asks : Prop} {α : Type}

/-- What is left of a pass that stamps what it sends is stamped too, unless an ask has just been
noted: then that is what is sent next. -/
private inductive StampsOn (actor : Id) (told : Option Id → Prop) (asks : Prop) {α : Type} :
    Pass α → World → Prop
  | stamped {pass : Pass α} {world : World} (stamps : pass.Stamps actor told asks) :
    StampsOn actor told asks pass world
  | noted {target : Id} {message : Message} {next : Except ActionError Id → Pass α}
    {world : World} (conveys : world.Conveys actor told asks target message)
    (stamps : ∀ answer, (next answer).Stamps actor told asks) :
    StampsOn actor told asks (.deliver target message next) world

private lemma GetsTo.stampsOn {pass rest : Pass α} {world middle : World}
    (gets : engine.GetsTo actor pass world rest middle)
    (stamps : StampsOn actor told asks pass world) :
    StampsOn actor told asks rest middle := by
  induction gets with
  | here => exact stamps
  | deliver _ _ ih =>
    refine ih (.stamped ?_)
    cases stamps with
    | stamped stamps => cases stamps with | tell _ _ rest => exact rest _
    | noted _ stamps => exact stamps _
  | @registerAsk asker target event next world _ _ _ ih =>
    refine ih ?_
    cases stamps with
    | stamped stamps =>
      cases stamps with
      | ask source may rest => exact .noted (world.conveys_registerAsk may source) (rest _)
  | remember _ ih =>
    cases stamps with
    | stamped stamps => cases stamps with | remember rest => exact ih (.stamped rest)
  | read _ ih | execute _ ih | interfaceOf _ ih =>
    cases stamps with
    | stamped stamps => cases stamps with | _ rest => exact ih (.stamped (rest _))
  | callTool _ _ ih | invoke _ _ ih =>
    cases stamps with
    | stamped stamps => cases stamps with | _ rest => exact ih (.stamped (rest _))

/-- **What a message carries that a pass sends**: one of the correlations that the pass tells,
unless the message is a request, which has just been entered under a new one. -/
theorem GetsTo.conveys {pass : Pass α} {target : Id} {message : Message}
    {next : Except ActionError Id → Pass α} {world middle : World}
    (gets : engine.GetsTo actor pass world (.deliver target message next) middle)
    (stamps : pass.Stamps actor told asks) :
    middle.Conveys actor told asks target message := by
  cases gets.stampsOn (.stamped stamps) with
  | stamped stamps => cases stamps with | tell source carries => exact .told source carries
  | noted conveys => exact conveys

end Engine

/-! ## Why a pass stops -/

namespace Engine

variable {engine : Engine} {occasion : Occasion} {α β : Type}

/-- At some point a pass serves its event: it runs the tool of its actor, or something fails. -/
inductive Serves (engine : Engine) (occasion : Occasion) {α : Type} (pass : Pass α)
    (world : World) : Prop
  /-- The tool of the actor is run. -/
  | function {activation : Activation} {template : Option Json}
    {next : Activation.Step → Pass α} {middle : World} :
    engine.GetsTo occasion.actor.id pass world
      (activation.runAction occasion (.function template) >>= next) middle →
    Serves engine occasion pass world
  /-- Something fails. -/
  | failed {activation : Activation} {error : ActionError} {next : Activation.Step → Pass α}
    {middle : World} :
    engine.GetsTo occasion.actor.id pass world (activation.failed occasion error >>= next) middle →
    Serves engine occasion pass world

/-- At some point a pass asks, by one of some actions. -/
def Asks (engine : Engine) (occasion : Occasion) (among : Action → Prop) {α : Type} (pass : Pass α)
    (world : World) : Prop :=
  ∃ (activation : Activation) (send : SendAction) (next : Activation.Step → Pass α)
    (middle : World), among (.ask send) ∧
    engine.GetsTo occasion.actor.id pass world
      (activation.runAction occasion (.ask send) >>= next) middle

namespace Serves

variable {pass rest : Pass α} {world middle : World}

lemma of_gets (gets : engine.GetsTo occasion.actor.id pass world rest middle)
    (serves : engine.Serves occasion rest middle) : engine.Serves occasion pass world := by
  cases serves with
  | function later => exact .function (gets.trans later)
  | failed later => exact .failed (gets.trans later)

/-- What follows a pass does not matter to what it serves. -/
lemma bind (serves : engine.Serves occasion pass world) (next : α → Pass β) :
    engine.Serves occasion (pass >>= next) world := by
  cases serves with
  | function later =>
    have later := later.bind next
    rw [bind_assoc] at later
    exact .function later
  | failed later =>
    have later := later.bind next
    rw [bind_assoc] at later
    exact .failed later

end Serves

/-- A pass has a reason to stop: one of some actions asks, or the event is served. -/
def Stops (engine : Engine) (occasion : Occasion) (among : Action → Prop) (pass : Pass α)
    (world : World) : Prop :=
  engine.Asks occasion among pass world ∨ engine.Serves occasion pass world

namespace Stops

variable {among : Action → Prop} {pass rest : Pass α} {world middle : World}

lemma of_gets (gets : engine.GetsTo occasion.actor.id pass world rest middle)
    (stops : engine.Stops occasion among rest middle) :
    engine.Stops occasion among pass world := by
  refine stops.imp ?_ (.of_gets gets)
  rintro ⟨activation, send, next, later, may, reached⟩
  exact ⟨activation, send, next, later, may, gets.trans reached⟩

lemma bind (stops : engine.Stops occasion among pass world) (next : α → Pass β) :
    engine.Stops occasion among (pass >>= next) world := by
  refine stops.imp ?_ (·.bind next)
  rintro ⟨activation, send, rest, later, may, reached⟩
  have reached := reached.bind next
  rw [bind_assoc] at reached
  exact ⟨activation, send, _, later, may, reached⟩

end Stops

/-- A pass that gets to a failure serves. -/
lemma Serves.of_failed {pass : Pass Activation.Step} {world middle : World}
    {activation : Activation} {error : ActionError}
    (gets : engine.GetsTo occasion.actor.id pass world (activation.failed occasion error) middle) :
    engine.Serves occasion pass world := by
  rw [← bind_pure (activation.failed occasion error)] at gets
  exact .failed gets

/-- Only an ask and a tool call keep other actions from running when they are done. -/
lemma perform_proceeds (activation : Activation) {action : Action}
    (asks : ∀ send, action ≠ .ask send) (calls : ∀ template, action ≠ .function template) :
    (activation.perform occasion action).Ensures fun result =>
      ∀ step, result = .ok step → step.1 = .proceed := by
  cases action with
  | ask send => exact absurd rfl (asks send)
  | function template => exact absurd rfl (calls template)
  | ctx patch =>
    intro step done
    rcases activation.runCtx_eq occasion.event patch with ⟨error, failed⟩ | ⟨patch, -, staged⟩
    · rw [failed] at done
      cases done
    · rw [staged] at done
      cases done
      rfl
  | op op =>
    change (activation.runOp occasion.event op).Ensures _
    unfold Activation.runOp
    split
    · simp [Ensures]
    · intro answer
      cases answer <;> simp [Ensures]
  | tell send =>
    change (activation.runTell occasion send).Ensures _
    unfold Activation.runTell
    split
    · simp [Ensures]
    · intro answer
      cases answer <;> simp [Ensures]
  | invoke target payload =>
    change (activation.runInvoke occasion.event target payload).Ensures _
    unfold Activation.runInvoke
    split
    · simp [Ensures]
    · intro answer
      cases answer <;> simp [Ensures]
  | guard guard => simp [Activation.perform, Ensures]
  | named name => simp [Activation.perform, Ensures]

section Stopping

variable {among : Action → Prop} {activation last : Activation} {world after : World}

/-- An action after which no other runs has asked, run a tool or failed. -/
lemma runAction_stops {action : Action} (may : among action)
    (ran : engine.runPass occasion.actor.id (activation.runAction occasion action) world =
      .ok (.stop, last) after) :
    engine.Stops occasion among (activation.runAction occasion action) world := by
  have whole : engine.GetsTo occasion.actor.id (activation.runAction occasion action) world
      (activation.runAction occasion action >>= pure) world := by
    rw [bind_pure]
    exact .here _ _
  by_cases asks : ∃ send, action = .ask send
  · obtain ⟨send, rfl⟩ := asks
    exact .inl ⟨activation, send, pure, world, may, whole⟩
  by_cases calls : ∃ template, action = .function template
  · obtain ⟨template, rfl⟩ := calls
    exact .inr (.function whole)
  -- any other action proceeds, unless it fails
  rw [Activation.runAction, runPass_then] at ran
  obtain ⟨result, middle, performed, goesOn⟩ := Run.ok_of_bind ran
  have performed := GetsTo.of_ok performed
  cases result with
  | ok step =>
    have proceeds := performed.ensures (perform_proceeds _ (fun send eq => asks ⟨send, eq⟩)
      fun template eq => calls ⟨template, eq⟩) step rfl
    cases goesOn
    cases proceeds
  | error error =>
    exact .inr (.of_failed (performed.bind _))

/-- What runs named lists stops for a reason. -/
private abbrev CallStops (engine : Engine) (occasion : Occasion) (among : Action → Prop)
    (call : String → Activation → Pass Activation.Step) : Prop :=
  ∀ name activation world last after, among (.named name) →
    engine.runPass occasion.actor.id (call name activation) world = .ok (.stop, last) after →
    engine.Stops occasion among (call name activation) world

variable {call : String → Activation → Pass Activation.Step}

lemma failed_stops {error : ActionError} :
    engine.Stops occasion among (activation.failed occasion error) world :=
  .inr (.of_failed (.here _ _))

lemma runOne_stops (calls : CallStops engine occasion among call) {action : Action}
    (may : among action) (ran : engine.runPass occasion.actor.id
      (Activation.runOne call occasion action activation) world = .ok (.stop, last) after) :
    engine.Stops occasion among (Activation.runOne call occasion action activation) world := by
  cases action with
  | named name => exact calls name activation world last after may ran
  | _ => exact runAction_stops may ran

lemma runWith_stops (calls : CallStops engine occasion among call) {actions : List Action}
    (all : ∀ action ∈ actions, among action) {skipping : Bool}
    (ran : engine.runPass occasion.actor.id
      (Activation.runWith call occasion actions skipping activation) world =
        .ok (.stop, last) after) :
    engine.Stops occasion among (Activation.runWith call occasion actions skipping activation)
      world := by
  fun_induction Activation.runWith call occasion actions skipping activation
    generalizing world with
  | case1 => cases ran
  | case2 _ _ _ _ _ _ ih => exact ih (List.forall_mem_cons.1 all).2 ran
  | case3 => exact failed_stops
  | case4 _ _ _ _ ih => exact ih (List.forall_mem_cons.1 all).2 ran
  | case5 action rest skipping activation _ _ ih =>
    obtain ⟨may, others⟩ := List.forall_mem_cons.1 all
    rw [runPass_then] at ran
    obtain ⟨⟨flow, next⟩, middle, first, goesOn⟩ := Run.ok_of_bind ran
    cases flow with
    | stop => exact (runOne_stops calls may first).bind _
    | proceed => exact .of_gets ((GetsTo.of_ok first).bind _) (ih next others goesOn)

lemma runNamed_stops (find : ∀ {name list}, among (.named name) →
      occasion.named.find? name = some list → ∀ action ∈ list, among action) (levels : Nat) :
    CallStops engine occasion among (Activation.runNamed occasion levels) := by
  induction levels with
  | zero => exact fun _ _ _ _ _ _ _ => failed_stops
  | succ levels ih =>
    intro name activation world last after may ran
    unfold Activation.runNamed at ran ⊢
    split at ran
    · rename_i list found
      exact runWith_stops ih (find may found) ran
    · exact failed_stops

/-- **Why a list of actions stops**: something was asked, by one of the actions that it leads to, or
the event has been served. -/
theorem run_stops {actions : List Action}
    (ran : engine.runPass occasion.actor.id (activation.run occasion actions) world =
      .ok (.stop, last) after) :
    engine.Stops occasion (occasion.named.Reaches actions) (activation.run occasion actions) world :=
  runWith_stops (runNamed_stops (fun reaches => reaches.find) _) (fun _ => .self) ran

/-- **A pass in which a list of actions stops serves its event**, if none of the actions that the
list leads to asks. -/
theorem serves_of_stop {pass : Pass α} {actions : List Action} {next : Activation.Step → Pass α}
    {middle : World} (gets : engine.GetsTo occasion.actor.id pass world
      (activation.run occasion actions >>= next) middle)
    (silent : ∀ send, ¬ occasion.named.Reaches actions (.ask send))
    (ran : engine.runPass occasion.actor.id (activation.run occasion actions) middle =
      .ok (.stop, last) after) :
    engine.Serves occasion pass world := by
  rcases run_stops ran with ⟨_, send, _, _, asks, -⟩ | serves
  · exact absurd asks (silent send)
  · exact .of_gets gets (serves.bind next)

/-- A process serves an event if its handler stops, and does not ask. -/
lemma serves_of_handler {definition : ProcessDefinition} {suppressed : List String} {actor : Actor}
    {memory : Memory} {event : Event} {actions : List Action}
    (handler : definition.handlers.find? event.name = some actions)
    (silent : ∀ send, ¬ definition.named.Reaches actions (.ask send))
    (ran : engine.runPass actor.id
      ((Activation.ofContext (world.store.read actor.config.context)).run
        ⟨actor, definition.named, event⟩ actions) world = .ok (.stop, last) after) :
    engine.Serves ⟨actor, definition.named, event⟩
      (Behavior.send (.process definition suppressed) actor memory event) world := by
  refine .bind ?_ _
  change engine.Serves _ (Process.work definition suppressed actor memory event) world
  unfold Process.work
  rw [handler]
  exact serves_of_stop (.read (.here _ _)) silent ran

end Stopping

end Engine

/-! ## Answers -/

/-- A message is a reply to the event of a pass. -/
structure Occasion.Replies (occasion : Occasion) (message : Message) : Prop where
  /-- It is from the actor, -/
  source : message.source = some occasion.actor.id
  /-- it carries what the event carries, -/
  carries : message.correlation = occasion.event.correlation
  /-- and it tells of a success or of a failure. -/
  tells : (message.type = successEvent ∧
      ∃ payload result, message.payload = successPayload payload result) ∨
    (message.type = errorEvent ∧ ∃ error : ActionError, message.payload = error.payload)

namespace Occasion

variable {occasion : Occasion} {sender : Id}

/-- Whoever sent an event is the first to get a reply. -/
lemma replyTargets_of_source (source : occasion.event.source = some sender) :
    ∃ others, occasion.replyTargets = sender :: others := by
  unfold replyTargets
  rw [source]
  dsimp only
  split
  · rename_i same
    exact ⟨[], by rw [same]⟩
  · exact ⟨_, rfl⟩

/-- A reply begins with a message to whoever sent the event. -/
lemma reply_eq (source : occasion.event.source = some sender) (type : String) (payload : Json)
    (automatic : Bool) : ∃ rest, occasion.reply type payload automatic =
      .deliver sender
        { type, payload, source := some occasion.actor.id,
          correlation := occasion.event.correlation, automatic } rest := by
  obtain ⟨others, targets⟩ := replyTargets_of_source source
  unfold reply
  rw [targets]
  exact ⟨_, rfl⟩

end Occasion

namespace Engine

variable {engine : Engine} {occasion : Occasion} {sender : Id} {α : Type} {pass : Pass α}
variable {world after : World} {result : α}

/-- A pass answers its event: at some point it sends a reply to whoever sent the event. -/
def Answers (engine : Engine) (occasion : Occasion) (sender : Id) (pass : Pass α)
    (world : World) : Prop :=
  ∃ (message : Message) (next : Except ActionError Id → Pass α) (middle : World),
    engine.GetsTo occasion.actor.id pass world (.deliver sender message next) middle ∧
      occasion.Replies message

/-- A failure is told to whoever sent the event, unless that is an ERROR itself. -/
lemma answers_of_failed (source : occasion.event.source = some sender)
    (other : occasion.event.name ≠ errorEvent) {activation : Activation} {error : ActionError}
    {next : Activation.Step → Pass α} {middle : World}
    (gets : engine.GetsTo occasion.actor.id pass world
      (activation.failed occasion error >>= next) middle) :
    engine.Answers occasion sender pass world := by
  obtain ⟨rest, eq⟩ := Occasion.reply_eq source errorEvent error.payload true
  have failed : activation.failed occasion error >>= next = .deliver sender
      (occasion.report error)
      fun answer => (rest answer >>= fun _ => pure (.stop, activation)) >>= next := by
    rw [Activation.failed, Occasion.fail, if_neg other, eq]
    rfl
  rw [failed] at gets
  exact ⟨_, _, _, gets, rfl, rfl, .inr ⟨rfl, error, rfl⟩⟩

/-- **A pass that serves its event answers it**, if it returns: it sends a reply to whoever sent the
event. -/
theorem Serves.answers (serves : engine.Serves occasion pass world)
    (source : occasion.event.source = some sender) (other : occasion.event.name ≠ errorEvent)
    (ran : engine.runPass occasion.actor.id pass world = .ok result after) :
    engine.Answers occasion sender pass world := by
  cases serves with
  | failed gets => exact answers_of_failed source other gets
  | @function activation template next middle gets =>
    rw [gets.runPass_eq] at ran
    rw [Activation.runAction] at gets ran
    generalize { activation with actionsRun := activation.actionsRun + 1 } = counted at gets ran
    rw [show counted.perform occasion (.function template) =
      counted.runFunction occasion template from rfl] at gets ran
    unfold Activation.runFunction at gets ran
    split at gets
    · exact answers_of_failed source other gets
    · rename_i tool attached
      split at gets
      · exact answers_of_failed source other gets
      · rename_i payload resolved
        rw [attached] at ran
        dsimp only at ran
        rw [resolved] at ran
        -- the tool has returned, or else the pass would not have
        obtain ⟨answer, later, called, -⟩ := Run.ok_of_bind ran
        have returned := gets.trans (.callTool called (.here _ _))
        cases answer with
        | error cause => exact answers_of_failed source other returned
        | ok raw =>
          obtain ⟨rest, eq⟩ := Occasion.reply_eq source successEvent
            (successPayload occasion.event.payload (cleanResult raw)) false
          change engine.GetsTo _ pass world (((occasion.reply successEvent
            (successPayload occasion.event.payload (cleanResult raw)) false >>= _) >>= _) >>=
              next) later at returned
          rw [eq] at returned
          exact ⟨_, _, _, returned, rfl, rfl, .inl ⟨rfl, _, _, rfl⟩⟩

end Engine

end Troupe
