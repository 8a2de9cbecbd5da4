import Mathlib.Algebra.Group.Nat.Defs
import Troupe.Proofs.Actor
import Troupe.Proofs.Behavior.Loading
import Troupe.Proofs.World.Circle
import Troupe.Proofs.World.Fifo
import Troupe.Proofs.World.Resumption

/-!
# What is accepted when an actor is made is accepted when it is started

A specification is checked when an actor is made from it, and its record is checked again when the
actor is started, in another state and perhaps by another runtime.  Both checks agree.  Making an
actor from a specification that is not sound does nothing.  A record that was made is never
refused: the actor runs with what was specified, and it is sent to where it was sent before.  A
start that is refused, of whatever record, does nothing either.

A start that is not refused returns if its start pass does, and that may be broken off by a tool
(`World.createActor_broken_off`).  The start passes of processes return, and those of machines that
resume; a machine that enters its first state without tools returns too, if starts may nest deep
enough for those that it tells (`World.Circle`).  `Run.Lasts` says that with tools that neither break
off nor call back into the runtime nothing but this depth is in the way either.

## Main results

* `World.createActor_founds`: what is stored of an actor that was made;
* `Engine.spawn_lasts`: with calm tools a start is cut short only by starts that nest too deep;
* `Engine.start_panics`: a machine that begins with a tool that breaks off does not start;
* `World.createActor_admits`: making and starting agree.
-/

namespace Troupe

/-! ## Calm tools -/

namespace Script

/-- A script neither breaks off nor calls back into the runtime. -/
def Calm {α : Type} : Script α → Prop
  | .done _ => True
  | .panic => False
  | .read _ next => ∀ value, (next value).Calm
  | .execute _ next => ∀ result, (next result).Calm
  | .deliver .. => False
  | .pump .. => False

end Script

namespace ToolRegistry

/-- All registered tools are calm. -/
def Calm (registry : ToolRegistry) : Prop :=
  ∀ name tool, registry.tools.find? name = some tool → ∀ view payload, (tool.code view payload).Calm

variable {registry : ToolRegistry}

lemma calm_beginCall (calm : registry.Calm) (name : String) (payload : Json) :
    (registry.beginCall name payload).2.Calm ∧
      ∀ code, (registry.beginCall name payload).1 = .ok code → ∀ view payload,
        (code view payload).Calm := by
  obtain ⟨same, codes⟩ := registry.beginCall_tools name payload
  refine ⟨?_, fun code admitted => ?_⟩
  · rwa [Calm, same]
  · obtain ⟨tool, found, rfl⟩ := codes code admitted
    exact calm name tool found

lemma calm_endCall (calm : registry.Calm) (result : Except ToolError Json) :
    (registry.endCall result).Calm := by
  rwa [Calm, endCall_tools]

end ToolRegistry

/-! ## Computations that last -/

namespace Run

variable {α β : Type} {world : World}

/-- With calm tools a computation returns, unless starts nest too deep; the tools stay calm. -/
def Lasts (run : Run α) (world : World) : Prop :=
  world.tools.Calm → match run world with
    | .ok _ after => after.tools.Calm
    | .error halt _ => halt = .exhausted

namespace Lasts

lemma pure (result : α) (world : World) : Lasts (Pure.pure result : Run α) world := fun calm => calm

lemma get {next : World → Run α} (lasts : Lasts (next world) world) :
    Lasts (MonadState.get >>= next) world := lasts

lemma modifyGet {change : World → α × World} (same : (change world).2.tools = world.tools) :
    Lasts (modifyGet change : Run α) world := fun calm => by
  change (change world).2.tools.Calm
  rwa [same]

lemma modify {change : World → World} (same : (change world).tools = world.tools) :
    Lasts (modify change : Run PUnit) world := fun calm => by
  change (change world).tools.Calm
  rwa [same]

lemma bind {first : Run α} {next : α → Run β} (begins : Lasts first world)
    (goesOn : ∀ result middle, first world = .ok result middle → Lasts (next result) middle) :
    Lasts (first >>= next) world := by
  intro calm
  have begins := begins calm
  cases ran : first world with
  | ok result middle =>
    rw [ran] at begins
    rw [bind_of_ok ran]
    exact goesOn result middle ran begins
  | error halt middle =>
    rw [ran] at begins
    rwa [bind_of_error ran]

end Lasts

end Run

open World

namespace World

lemma StoreFrame.tools {before after : World} (storeFrame : before.StoreFrame after) :
    after.tools = before.tools := by
  rw [storeFrame.frame]

end World

namespace Engine

variable {α : Type} {engine : Engine}

/-- Starts last. -/
def Lasts (engine : Engine) : Prop := ∀ id world, Run.Lasts (engine.spawn id) world

lemma post_lasts (lasts : engine.Lasts) (target : Id) (message : Message) (world : World) :
    Run.Lasts (engine.post target message) world := by
  refine .get (.bind (.modifyGet (world.post_storeFrame target message).tools)
    fun result middle _ => ?_)
  cases result with
  | error error => exact .pure _ _
  | ok id =>
    dsimp only
    split
    · exact .bind (lasts target middle) fun _ _ _ => .pure _ _
    · exact .pure _ _

lemma runScript_lasts (script : Script α) (calm : script.Calm) (world : World) :
    Run.Lasts (engine.runScript script) world := by
  induction script generalizing world with
  | done result => exact .pure _ _
  | panic | deliver | pump => exact calm.elim
  | read id next ih => exact .get (ih _ (calm _) world)
  | execute op next ih =>
    exact .bind (.modifyGet (world.write_storeFrame op).tools) fun result middle _ =>
      ih result (calm result) middle

lemma callTool_lasts (name : String) (view : ActorView) (payload : Json) (world : World) :
    Run.Lasts (engine.callTool name view payload) world := by
  intro calm
  obtain ⟨calmly, codes⟩ := ToolRegistry.calm_beginCall calm name payload
  have admits : Run.Lasts (modifyGet fun world : World =>
      ((world.tools.beginCall name payload).1,
        { world with tools := (world.tools.beginCall name payload).2 }) :
      Run (Except ToolError ToolCode)) world := fun _ => calmly
  refine Run.Lasts.bind admits (fun admitted middle ran => ?_) calm
  obtain ⟨same, -⟩ := EStateM.Result.ok.inj ran
  cases admitted with
  | error cause => exact .pure _ _
  | ok code =>
    refine .bind (runScript_lasts _ (codes code same view payload) middle) fun result last _ => ?_
    have noted : Run.Lasts (modify fun world =>
        { world with tools := world.tools.endCall result } : Run PUnit) last :=
      fun calm => ToolRegistry.calm_endCall calm result
    exact .bind noted fun _ _ _ => .pure _ _

lemma invoke_lasts (target : Id) (payload : Json) (world : World) :
    Run.Lasts (engine.invoke target payload) world := by
  refine .get ?_
  split
  · exact .pure _ _
  · rename_i config _
    cases config.function with
    | none => exact .pure _ _
    | some tool => exact .bind (callTool_lasts _ _ _ _) fun _ _ _ => .pure _ _

/-- A pass lasts. -/
theorem runPass_lasts (lasts : engine.Lasts) (actor : Id) (pass : Pass α) (world : World) :
    Run.Lasts (engine.runPass actor pass) world := by
  induction pass generalizing world with
  | done result => exact .pure _ _
  | read id next ih => exact .get (ih _ world)
  | execute op next ih =>
    exact .bind (.modifyGet (world.write_storeFrame op).tools) fun _ _ _ => ih _ _
  | callTool name view payload next ih => exact .bind (callTool_lasts _ _ _ _) fun _ _ _ => ih _ _
  | deliver target message next ih =>
    exact .bind (post_lasts lasts target message world) fun _ _ _ => ih _ _
  | interfaceOf target next ih => exact .get (ih _ world)
  | registerAsk asker target event next ih => exact .bind (.modifyGet rfl) fun _ _ _ => ih _ _
  | invoke target payload next ih => exact .bind (invoke_lasts _ _ _) fun _ _ _ => ih _ _
  | remember memory next ih =>
    refine .bind (.modify ?_) fun _ _ _ => ih _
    rw [World.remember, updateRunning_frame]

lemma spawnWith_lasts (lasts : engine.Lasts) (id : Id) (world : World) :
    Run.Lasts (engine.spawnWith id) world := by
  intro calm
  have begun : ∀ config behavior,
      ((world.enlist id config behavior).turnTo id .starting).tools.Calm := by
    intro config behavior
    rw [turnTo, updateRunning_frame]
    exact calm
  have passes := fun config behavior =>
    runPass_lasts lasts id (behavior.start ⟨id, config⟩ behavior.initialMemory) _
      (begun config behavior)
  have startup := engine.spawnWith_startup id world
  generalize engine.spawnWith id world = result at startup ⊢
  cases startup with
  | running | unrecorded | unloaded => exact calm
  | @passed config behavior last _ _ _ passed =>
    have kept := passes config behavior
    rw [passed] at kept
    dsimp only
    rwa [schedule, turnTo, updateRunning_frame]
  | @halted config behavior halt last _ _ _ halted =>
    have kept := passes config behavior
    rwa [halted] at kept

/-- A start is cut short only by starts that nest too deep. -/
theorem spawn_lasts (depth : Nat) : (Troupe.engine depth).Lasts := by
  induction depth with
  | zero => exact fun id world calm => rfl
  | succ depth ih => exact fun id world => spawnWith_lasts ih id world

end Engine

/-! ## Making an actor -/

/-- What an actor can be made from: its behavior loads and its context is an object. -/
structure ActorSpec.Sound (spec : ActorSpec) (config : Config) : Prop where
  /-- Its behavior is well-formed, -/
  behavior : ∃ behavior, Behavior.load spec.behavior config = .ok behavior
  /-- and its context is an object. -/
  context : spec.context.isObject = true

namespace World

variable {world after : World} {spec : ActorSpec} {actor inbox context : Id}

/-- An actor as it is when it has just been made to a specification. -/
structure Founds (world : World) (spec : ActorSpec) (actor inbox context : Id) : Prop where
  /-- Its record says what was specified, -/
  record : world.store.read actor = some (spec.config inbox context).toJson
  /-- its context is the one that was specified, -/
  context : world.store.read context = some spec.context
  /-- and its inbox is empty and names its owner. -/
  inbox : world.store.read inbox =
    some (.obj [(Inbox.entriesField, .arr []), ("owner", .id actor)])

/-- Nothing is made to a specification that is not sound. -/
lemma createActor_of_not_sound (unsound : ¬ spec.Sound world.config) :
    ∃ cause, createActor spec world = .ok (.error (.config cause)) world := by
  rw [createActor, Run.get_bind]
  cases loaded : Behavior.load spec.behavior world.config with
  | error cause => exact ⟨cause, rfl⟩
  | ok behavior =>
    dsimp only
    cases object : spec.context.isObject with
    | true => exact absurd ⟨⟨behavior, loaded⟩, object⟩ unsound
    | false => exact ⟨_, rfl⟩

/-- What it is to make an object. -/
structure Makes (before : World) (value : Json) (id : Id) (after : World) : Prop where
  /-- It has the next identifier, -/
  next : id = before.store.supply.next
  /-- which is handed out, -/
  supply : after.store.supply = before.store.supply.advance
  /-- and it is stored; other objects stay. -/
  read : ∀ other, after.store.read other = if id = other then some value else before.store.read other

namespace Makes

lemma leads {value : Json} {id : Id} (makes : world.Makes value id after) :
    world.store.supply.Leads after.store.supply :=
  makes.supply ▸ Supply.leads_advance _

lemma mints {value : Json} {id : Id} (makes : world.Makes value id after) :
    world.store.supply.Mints after.store.supply id := by
  rw [makes.next, makes.supply]
  exact Supply.mints_next _

end Makes

lemma makes_of_make {value : Json} {id : Id} (made : world.make value = (id, after)) :
    world.Makes value id after := by
  cases made
  exact ⟨rfl, make_supply world value, read_make world value⟩

lemma makes_of_makeInbox (made : world.makeInbox = (inbox, after)) :
    world.Makes (.obj [(Inbox.entriesField, .arr [])]) inbox after := by
  cases made
  exact ⟨rfl, make_supply world _, read_make world _⟩

/-- To a sound specification everything is made in turn, the owner of the inbox last. -/
lemma createActor_of_sound {first second third : World} (sound : spec.Sound world.config)
    (madeInbox : world.makeInbox = (inbox, first))
    (madeContext : first.make spec.context = (context, second))
    (madeRecord : second.make (spec.config inbox context).toJson = (actor, third)) :
    createActor spec world = match third.own inbox actor with
      | (.ok _, last) => .ok (.ok actor) last
      | (.error cause, last) => .ok (.error (.store cause)) last := by
  obtain ⟨behavior, loaded⟩ := sound.behavior
  rw [createActor, Run.get_bind, loaded]
  simp only [sound.context, Bool.not_true, Bool.false_eq_true, if_false, Run.modifyGet_bind,
    madeInbox, madeContext, madeRecord]
  cases third.own inbox actor with
  | mk answer last => cases answer <;> rfl

/-- An inbox that is there gets an owner, and nothing else changes. -/
lemma read_own {owner : Id} {answer : Json} {fields : List (String × Json)}
    (there : world.store.read inbox = some (.obj fields))
    (done : world.own inbox owner = (.ok answer, after)) (id : Id) :
    after.store.read id =
      if inbox = id then some (.obj (Assoc.insert "owner" (.id owner) fields))
      else world.store.read id := by
  have ran : (world.store.execute (.update inbox (.obj [("owner", .id owner)]))).1 = .ok answer :=
    congrArg Prod.fst done
  have last : (world.own inbox owner).2 = after := congrArg Prod.snd done
  obtain ⟨current, found, -, same⟩ := Store.update_ok (Store.execute_ok ran)
  rw [there] at found
  cases found
  rw [← last, own, read_apply, same, Store.read_put, Json.merge_single rfl rfl]

/-- What is made was specified soundly, and in this order. -/
lemma createActor_ok (made : createActor spec world = .ok (.ok actor) after) :
    spec.Sound world.config ∧ ∃ inbox first context second third answer,
      world.makeInbox = (inbox, first) ∧ first.make spec.context = (context, second) ∧
      second.make (spec.config inbox context).toJson = (actor, third) ∧
      third.own inbox actor = (.ok answer, after) := by
  by_cases sound : spec.Sound world.config
  · rw [createActor_of_sound sound rfl rfl rfl] at made
    split at made
    · rename_i answer last owned
      cases made
      exact ⟨sound, _, _, _, _, _, answer, rfl, rfl, rfl, owned⟩
    · cases made
  · obtain ⟨cause, refused⟩ := createActor_of_not_sound sound
    rw [refused] at made
    cases made

/-- Making an actor only writes to the store. -/
lemma createActor_storeFrame (made : createActor spec world = .ok (.ok actor) after) :
    world.StoreFrame after := by
  obtain ⟨-, inbox, first, context, second, third, answer, madeInbox, madeContext, madeRecord,
    owned⟩ :=
    createActor_ok made
  have inboxFrame := world.makeInbox_storeFrame
  have contextFrame := first.make_storeFrame spec.context
  have recordFrame := second.make_storeFrame (spec.config inbox context).toJson
  have ownFrame := third.own_storeFrame inbox actor
  rw [madeInbox] at inboxFrame
  rw [madeContext] at contextFrame
  rw [madeRecord] at recordFrame
  rw [owned] at ownFrame
  exact ((inboxFrame.trans contextFrame).trans recordFrame).trans ownFrame

/-- What is stored of an actor that was made; no object is written that was there before. -/
theorem createActor_founds (made : createActor spec world = .ok (.ok actor) after)
    (fresh : after.store.supply.Fresh) :
    spec.Sound world.config ∧ ∃ inbox context, after.Founds spec actor inbox context ∧
      ∀ id, ¬ world.store.supply.Mints after.store.supply id →
        after.store.read id = world.store.read id := by
  obtain ⟨sound, inbox, first, context, second, third, answer, madeInbox, madeContext, madeRecord,
    owned⟩ := createActor_ok made
  have inboxMakes := makes_of_makeInbox madeInbox
  have contextMakes := makes_of_make madeContext
  have recordMakes := makes_of_make madeRecord
  have leads : third.store.supply.Leads after.store.supply := by
    have storeFrame := third.own_storeFrame inbox actor
    rw [owned] at storeFrame
    exact storeFrame.store.supply
  have inboxNew := inboxMakes.mints.of_leads_right
    (contextMakes.leads.trans (recordMakes.leads.trans leads))
  have contextNew := (contextMakes.mints.of_leads_left inboxMakes.leads).of_leads_right
    (recordMakes.leads.trans leads)
  have recordNew := ((recordMakes.mints.of_leads_left contextMakes.leads).of_leads_left
    inboxMakes.leads).of_leads_right leads
  -- the three identifiers are the next ones of the supply, so they differ
  have freshRecord := recordMakes.supply ▸ fresh.of_leads leads
  have freshContext := contextMakes.supply ▸ freshRecord.of_leads (Supply.leads_advance _)
  have inboxMinted := inboxMakes.mints.minted
  have ne : inbox ≠ context := contextMakes.next ▸ inboxMinted.ne_next freshContext
  have ne' : inbox ≠ actor :=
    recordMakes.next ▸ (inboxMinted.of_leads contextMakes.leads).ne_next freshRecord
  have ne'' : context ≠ actor := recordMakes.next ▸ contextMakes.mints.minted.ne_next freshRecord
  have there : third.store.read inbox = some (.obj [(Inbox.entriesField, .arr [])]) := by
    rw [recordMakes.read, if_neg (Ne.symm ne'), contextMakes.read, if_neg (Ne.symm ne),
      inboxMakes.read, if_pos rfl]
  refine ⟨sound, inbox, context, ⟨?_, ?_, ?_⟩, fun other old => ?_⟩
  · rw [read_own there owned, if_neg ne', recordMakes.read, if_pos rfl]
  · rw [read_own there owned, if_neg ne, recordMakes.read, if_neg (Ne.symm ne''),
      contextMakes.read, if_pos rfl]
  · rw [read_own there owned, if_pos rfl]
    rfl
  · rw [read_own there owned, if_neg fun same : inbox = other => old (same ▸ inboxNew),
      recordMakes.read, if_neg fun same : actor = other => old (same ▸ recordNew),
      contextMakes.read, if_neg fun same : context = other => old (same ▸ contextNew),
      inboxMakes.read, if_neg fun same : inbox = other => old (same ▸ inboxNew)]

end World

/-! ## Starting an actor -/

namespace Engine

variable {engine : Engine} {world after : World} {actor : Id} {config : ActorConfig}
  {behavior : Behavior}

/-- A start that is refused does nothing. -/
lemma eq_of_spawnWith_error {error : RuntimeError}
    (refused : engine.spawnWith actor world = .ok (.error error) after) : after = world := by
  have startup := engine.spawnWith_startup actor world
  rw [refused] at startup
  cases startup <;> rfl

lemma eq_of_spawn_error {depth : Nat} {error : RuntimeError}
    (refused : (Troupe.engine depth).spawn actor world = .ok (.error error) after) :
    after = world := by
  cases depth with
  | zero => cases refused
  | succ depth => exact @eq_of_spawnWith_error (Troupe.engine depth) _ _ _ _ refused

lemma callTool_panics {name : String} {payload : Json} {code : ToolCode} {tools : ToolRegistry}
    (admitted : world.tools.beginCall name payload = (.ok code, tools)) {view : ActorView}
    (panics : code view payload = .panic) :
    engine.callTool name view payload world = .error .panic { world with tools } := by
  rw [callTool, Run.modifyGet_bind, admitted]
  dsimp only
  rw [panics]
  rfl

/-- A machine does not start if the first that it does in its first state is to run a tool that
breaks off. -/
theorem start_panics {definition : MachineDefinition} {memory : Memory} {node : StateNode}
    {rest : List Action} {name : String} {code : ToolCode} {tools : ToolRegistry}
    (anew : Machine.persistedState? definition (world.store.read config.context) = none)
    (found : definition.states.find? definition.initial = some node)
    (entry : node.entry = .function none :: rest) (tool : config.function = some name)
    (admitted : world.tools.beginCall name Machine.initialEvent.payload = (.ok code, tools))
    (panics : ∀ view, code view Machine.initialEvent.payload = .panic) :
    engine.runPass actor (Machine.start definition ⟨actor, config⟩ memory) world =
      .error .panic { world with tools } := by
  have begun : ∀ occasion : Occasion, occasion.actor.config = config →
      engine.runPass actor (Activation.begin occasion) world =
        .ok (Activation.ofContext (world.store.read config.context)) world := by
    rintro occasion rfl
    rfl
  have enters : ∀ activation,
      engine.runPass actor (Machine.enter definition
        (Machine.occasion definition ⟨actor, config⟩ Machine.initialEvent) definition.initial
          activation) world = .error .panic { world with tools } := by
    intro activation
    let counted := { activation with invoked := none, actionsRun := activation.actionsRun + 1 }
    have performs : engine.runPass actor (counted.perform (Machine.occasion definition
        ⟨actor, config⟩ Machine.initialEvent) (.function none)) world =
          .error .panic { world with tools } := by
      change engine.runPass actor (counted.runFunction _ none) world = _
      simp only [Activation.runFunction, Machine.occasion, tool, Activation.resolveOr]
      exact Run.bind_of_error (callTool_panics admitted (panics _))
    simp only [Machine.enter, found, Activation.run, entry, Activation.runWith, Activation.runOne,
      Activation.runAction, Bool.false_eq_true, if_false, runPass_then]
    exact Run.bind_of_error (Run.bind_of_error (Run.bind_of_error performs))
  rw [Machine.start, runPass_then]
  refine (Run.bind_of_ok (show engine.runPass actor (Pass.read config.context .done) world =
    .ok (world.store.read config.context) world from rfl)).trans ?_
  dsimp only
  rw [anew]
  dsimp only
  rw [runPass_then, Run.bind_of_ok (begun _ rfl), runPass_then, Run.bind_of_error (enters _)]

/-- So its start is broken off, whatever the engine does. -/
lemma spawnWith_panics {definition : MachineDefinition} {limit : Nat} {suppressed : List String}
    {node : StateNode} {rest : List Action} {name : String} {code : ToolCode}
    {tools : ToolRegistry} (stopped : world.running.contains actor = false)
    (recorded : world.actorConfig actor = .ok config)
    (loaded : Behavior.load config.behavior world.config =
      .ok (.machine definition limit suppressed))
    (anew : Machine.persistedState? definition (world.store.read config.context) = none)
    (found : definition.states.find? definition.initial = some node)
    (entry : node.entry = .function none :: rest) (tool : config.function = some name)
    (admitted : world.tools.beginCall name Machine.initialEvent.payload = (.ok code, tools))
    (panics : ∀ view, code view Machine.initialEvent.payload = .panic) :
    ∃ last, engine.spawnWith actor world = .error .panic last := by
  let begun := (world.enlist actor config (.machine definition limit suppressed)).turnTo actor
    .starting
  have read : begun.store.read config.context = world.store.read config.context := by
    have same : begun.store = (world.store.subscribe config.inbox (.actor actor)).2 :=
      updateRunning_store _ _ _
    rw [same]
    rfl
  have same : begun.tools = world.tools := by
    rw [show begun = _ from updateRunning_frame _ _ _]
    rfl
  have panicked := @start_panics engine begun actor config definition
    (Behavior.initialMemory (.machine definition limit suppressed)) node rest name code tools
    (by rw [read, anew]) found entry tool (by rw [same, admitted]) panics
  exact ⟨_, by rw [spawnWith_of_record engine stopped recorded loaded, Behavior.start, panicked]⟩

end Engine

namespace World

variable {world after : World} {spec : ActorSpec} {actor inbox context : Id} {config : ActorConfig}

/-- What comes of starting an actor that was made to a specification.  The last fields say when the
start pass returns. -/
structure Admits (world : World) (spec : ActorSpec) (actor inbox context : Id) : Prop where
  /-- Before, messages go to the inbox that it was made with. -/
  routed : Inbox.inboxOf (some world.store) (world.liveInbox? actor) actor = .ok inbox
  /-- It is not refused, -/
  accepted : ∀ depth error after, (engine depth).spawn actor world ≠ .ok (.error error) after
  /-- and when it returns, the actor runs with what was specified and is queued; messages go to
  the same inbox. -/
  runs : ∀ depth after, (engine depth).spawn actor world = .ok (.ok ()) after →
    ∃ running, after.running.find? actor = some running ∧
      running.config = spec.config inbox context ∧
      Behavior.load spec.behavior world.config = .ok running.behavior ∧
      running.activity = .idle ∧ actor ∈ after.ready.order ∧
      Inbox.inboxOf (some after.store) (after.liveInbox? actor) actor = .ok inbox
  /-- It returns if its start pass does. -/
  returns : ∃ behavior, Behavior.load spec.behavior world.config = .ok behavior ∧
    ∀ depth, (∃ after, (engine (depth + 1)).spawn actor world = .ok (.ok ()) after) ↔
      ∃ last, (engine depth).runPass actor
        (behavior.start ⟨actor, spec.config inbox context⟩ behavior.initialMemory)
        ((world.enlist actor (spec.config inbox context) behavior).turnTo actor .starting) =
          .ok () last
  /-- That of a process does. -/
  process : ∀ definition suppressed,
    Behavior.load spec.behavior world.config = .ok (.process definition suppressed) →
    ∀ depth, ∃ after, (engine (depth + 1)).spawn actor world = .ok (.ok ()) after
  /-- That of a machine does whose stored context names one of its states. -/
  resumes : ∀ definition limit suppressed state,
    Behavior.load spec.behavior world.config = .ok (.machine definition limit suppressed) →
    Machine.persistedState? definition (world.store.read context) = some state →
    ∀ depth, ∃ after, (engine (depth + 1)).spawn actor world = .ok (.ok ()) after
  /-- That of a machine does whose entry actions call no tool and tell nobody but the actor itself
  and actors that run. -/
  enters : ∀ definition limit suppressed told,
    Behavior.load spec.behavior world.config = .ok (.machine definition limit suppressed) →
    definition.EntersConfined told ∅ → actor ∈ told →
    (∀ id ∈ told, id = actor ∨ world.running.contains id = true) →
    ∀ depth, ∃ after, (engine (depth + 1)).spawn actor world = .ok (.ok ()) after
  /-- If it tells others that do not run, and none of those calls a tool either when it is started, it
  does if starts may nest as deep as there are such actors. -/
  encircled : ∀ circle, world.Circle circle → actor ∈ circle →
    ∀ depth, (world.still circle).card ≤ depth →
      ∃ after, (engine depth).spawn actor world = .ok (.ok ()) after
  /-- And where all tools are calm, it does unless starts nest too deep. -/
  lasts : world.tools.Calm → ∀ depth,
    (∃ after, (engine depth).spawn actor world = .ok (.ok ()) after) ∨
      ∃ after, (engine depth).spawn actor world = .error .exhausted after

lemma actorConfig_of_record (recorded : world.store.read actor = some config.toJson) :
    world.actorConfig actor = .ok config := by
  simp only [actorConfig, Inbox.readConfig, recorded, ok_bind_eq, ActorConfig.ofJson?_toJson]
  rfl

/-- Messages to an actor that does not run go to the inbox of its record. -/
lemma inboxOf_of_record (stopped : world.running.contains actor = false)
    (recorded : world.store.read actor = some config.toJson) :
    Inbox.inboxOf (some world.store) (world.liveInbox? actor) actor = .ok config.inbox := by
  have none : world.liveInbox? actor = .none := by
    rw [liveInbox?, Table.find?_of_not_contains stopped]
    rfl
  rw [none, Inbox.inboxOf, Inbox.readConfig, recorded, ok_bind_eq, ActorConfig.inboxOf?_toJson]
  rfl

/-- When actors form a circle of which none runs, in terms of their records. -/
lemma circle_of_records {circle : Finset Id} (config : Id → ActorConfig)
    (stopped : ∀ id ∈ circle, world.running.contains id = false)
    (recorded : ∀ id ∈ circle, world.store.read id = some (config id).toJson)
    (apart : ∀ n, world.store.supply.made ≤ n → world.store.supply.mint n ∉ circle)
    (inboxes : ∀ id ∈ circle, (config id).inbox ∉ circle)
    (entries : ∀ id ∈ circle, ∀ definition limit suppressed,
      Behavior.load (config id).behavior world.config = .ok (.machine definition limit suppressed) →
        (config id).context ∉ circle.erase id ∧
          definition.EntersConfined circle (circle.erase id)) : world.Circle circle := by
  have all : world.still circle = circle := Finset.filter_true_of_mem stopped
  constructor <;> rw [all]
  case apart => exact apart
  case inboxes =>
    intro id mem inbox routed
    rw [inboxOf_of_record (stopped id mem) (recorded id mem)] at routed
    cases routed
    exact inboxes id mem
  case homes =>
    intro id mem record read
    rw [actorConfig_of_record (recorded id mem)] at read
    cases read
    exact inboxes id mem
  case entries =>
    intro id mem record definition limit suppressed read loaded
    rw [actorConfig_of_record (recorded id mem)] at read
    cases read
    exact entries id mem definition limit suppressed loaded

/-- An actor whose start pass returns runs with its record, is idle and queued, and messages go to
the inbox of its record. -/
lemma runs_of_start {depth : Nat} {behavior : Behavior} {last : World}
    (passed : (engine depth).runPass actor
      (behavior.start ⟨actor, config⟩ behavior.initialMemory)
      ((world.enlist actor config behavior).turnTo actor .starting) = .ok () last) :
    let after := (last.turnTo actor .idle).schedule actor
    ∃ running, after.running.find? actor = some running ∧ running.config = config ∧
      running.behavior = behavior ∧ running.activity = .idle ∧ actor ∈ after.ready.order ∧
      Inbox.inboxOf (some after.store) (after.liveInbox? actor) actor = .ok config.inbox := by
  intro after
  have found := Engine.enlist_found world actor config behavior
  obtain ⟨steps, nests⟩ :=
    (Engine.start_bySteps (engine_bySteps depth) actor config behavior world).ok passed
  -- the actor is busy all through its start pass, so what is known of it stays
  obtain ⟨running, there, kept⟩ := nests.kept actor _ found
  have idle := turnTo_found .idle there
  have live : after.liveInbox? actor = some config.inbox := by
    refine (congrArg (Option.map fun running => running.config.inbox) idle).trans ?_
    exact congrArg (fun config : ActorConfig => some config.inbox) kept.config
  exact ⟨_, idle, kept.config, kept.behavior, rfl, ReadyQueue.mem_push _ _, by rw [live]; rfl⟩

/-- The start of an actor whose record can be loaded is not refused, and returns if and only if its
start pass does. -/
lemma spawn_of_record {behavior : Behavior} (stopped : world.running.contains actor = false)
    (recorded : world.actorConfig actor = .ok config)
    (loaded : Behavior.load config.behavior world.config = .ok behavior) :
    (∀ depth error after, (engine depth).spawn actor world ≠ .ok (.error error) after) ∧
    ∀ depth after, (engine (depth + 1)).spawn actor world = .ok (.ok ()) after ↔
      ∃ last, (engine depth).runPass actor (behavior.start ⟨actor, config⟩ behavior.initialMemory)
          ((world.enlist actor config behavior).turnTo actor .starting) = .ok () last ∧
        (last.turnTo actor .idle).schedule actor = after := by
  have starts : ∀ depth, (engine (depth + 1)).spawn actor world = _ := fun depth =>
    Engine.spawnWith_of_record (engine depth) stopped recorded loaded
  constructor
  · intro depth error after refused
    cases depth with
    | zero => cases refused
    | succ depth =>
      rw [starts] at refused
      split at refused <;> cases refused
  · intro depth after
    rw [starts]
    constructor
    · intro ran
      split at ran
      · rename_i last passed
        cases ran
        exact ⟨last, passed, rfl⟩
      · cases ran
    · rintro ⟨last, passed, rfl⟩
      rw [passed]

/-- A record that was made is accepted wherever it is started. -/
theorem admits_of_record (sound : ∃ config, spec.Sound config)
    (recorded : world.store.read actor = some (spec.config inbox context).toJson)
    (stopped : world.running.contains actor = false) : world.Admits spec actor inbox context := by
  obtain ⟨config, ⟨_, loaded⟩, -⟩ := sound
  obtain ⟨behavior, loaded⟩ := Behavior.exists_load loaded world.config
  obtain ⟨accepted, returns⟩ :=
    spawn_of_record stopped (actorConfig_of_record recorded) loaded
  constructor
  case routed => exact inboxOf_of_record stopped recorded
  case accepted => exact accepted
  case runs =>
    intro depth after ran
    cases depth with
    | zero => cases ran
    | succ depth =>
      obtain ⟨last, passed, rfl⟩ := (returns depth after).1 ran
      obtain ⟨running, found, recorded, same, idle, queued, routed⟩ := runs_of_start passed
      exact ⟨running, found, recorded, loaded.trans (congrArg Except.ok same.symm), idle, queued,
        routed⟩
  case returns =>
    refine ⟨behavior, loaded, fun depth => ⟨?_, ?_⟩⟩
    · rintro ⟨after, ran⟩
      obtain ⟨last, passed, -⟩ := (returns depth after).1 ran
      exact ⟨last, passed⟩
    · rintro ⟨last, passed⟩
      exact ⟨_, (returns depth _).2 ⟨last, passed, rfl⟩⟩
  case process =>
    intro definition suppressed process depth
    rw [loaded] at process
    cases process
    exact ⟨_, (returns depth _).2 ⟨_, rfl, rfl⟩⟩
  case resumes =>
    intro definition limit suppressed state machine persisted depth
    have resumes : world.Resumes actor (spec.config inbox context) state :=
      resumes_of_persisted (Table.find?_of_not_contains stopped) (actorConfig_of_record recorded)
        machine persisted
    obtain ⟨after, ran, -⟩ := resumes.spawn depth
    exact ⟨after, ran⟩
  case enters =>
    intro definition limit suppressed told machine enters own others depth
    rw [loaded] at machine
    cases machine
    obtain ⟨last, passed⟩ := Engine.start_returns (engine depth) enters own others
      (spec.config inbox context) (.machine definition limit suppressed)
      { state := definition.initial }
    exact ⟨_, (returns depth _).2 ⟨last, passed, rfl⟩⟩
  case encircled =>
    intro circle formed mem depth enough
    obtain ⟨result, after, ran, -⟩ :=
      Engine.starts_return depth actor world (mem_still.2 ⟨mem, stopped⟩) enough formed
    cases result with
    | ok done => exact ⟨after, ran⟩
    | error error => exact absurd ran (accepted depth error after)
  case lasts =>
    intro calm depth
    have lasts := Engine.spawn_lasts depth actor world calm
    cases ran : (engine depth).spawn actor world with
    | error halt after =>
      rw [ran] at lasts
      exact .inr ⟨after, by rw [← (lasts : halt = .exhausted)]⟩
    | ok result after =>
      cases result with
      | ok done => exact .inl ⟨after, rfl⟩
      | error error => exact absurd ran (accepted depth error after)

/-- What is saved and loaded of a record that reads as it was written. -/
lemma read_of_restore? {settings : Config} {value : Json}
    (restored : world.restore? settings = some after)
    (found : world.store.read actor = some value) (fixed : value.Fixed) :
    after.store.read actor = some value := by
  obtain ⟨store, reloaded, rfl⟩ := restore?_some restored
  have kept := Store.read_of_reload? reloaded actor
  rw [found] at kept
  cases read : store.read actor with
  | none =>
    rw [read] at kept
    exact kept.elim
  | some content =>
    rw [read] at kept
    exact read.trans (congrArg some (fixed content kept))

/-- **What is accepted when an actor is made is accepted when it is started.**  To a specification
that is not sound nothing is made.  An actor that was made to a specification has its record, its
context and its inbox, and as long as its record stays as it is and it does not run, whatever else
has become of the runtime, its start is not refused, and when it returns the actor runs with what was
specified.  It returns if its start pass does: so it does if the actor is a process, or a machine that
resumes, or one that calls no tool when it enters its first state, nor does anyone whom it starts.
That goes for the same runtime as well as for one that was begun anew over the saved store, with
whatever settings: its record is the same there if its behavior and its schemas read as they were
written.  And a start that is refused, of whatever record, does nothing. -/
theorem createActor_admits (spec : ActorSpec) (world : World) :
    (¬ spec.Sound world.config →
      ∃ cause, createActor spec world = .ok (.error (.config cause)) world) ∧
    (∀ cause after, createActor spec world = .ok (.error (.config cause)) after → after = world) ∧
    (∀ actor after, createActor spec world = .ok (.ok actor) after → after.store.supply.Fresh →
      ∃ inbox context, after.Founds spec actor inbox context ∧
        (∀ later : World, later.store.read actor = after.store.read actor →
          later.running.contains actor = false → later.Admits spec actor inbox context) ∧
        ∀ (later : World) settings restored, later.store.read actor = after.store.read actor →
          spec.behavior.Fixed →
          (∀ event schema, spec.schemas.find? event = some schema → schema.Fixed) →
          later.restore? settings = some restored → restored.Admits spec actor inbox context) ∧
    ∀ fuel actor error before after,
      (engine fuel).spawn actor before = .ok (.error error) after ∨
        spawn fuel actor before = .ok (.error error) after → after = before := by
  refine ⟨createActor_of_not_sound, fun cause after refused => ?_,
    fun actor after made fresh => ?_, ?_⟩
  · by_cases sound : spec.Sound world.config
    · rw [createActor_of_sound sound rfl rfl rfl] at refused
      split at refused <;> cases refused
    · obtain ⟨other, same⟩ := createActor_of_not_sound sound
      rw [same] at refused
      cases refused
      rfl
  · obtain ⟨sound, inbox, context, founds, -⟩ := createActor_founds made fresh
    refine ⟨inbox, context, founds, fun later same stopped => ?_,
      fun later settings restored same behavior schemas reload => ?_⟩
    · exact admits_of_record ⟨_, sound⟩ (same.trans founds.record) stopped
    · have recorded := read_of_restore? reload (same.trans founds.record)
        (ActorConfig.fixed_toJson behavior schemas)
      obtain ⟨store, -, rfl⟩ := restore?_some reload
      exact admits_of_record ⟨_, sound⟩ recorded rfl
  · rintro fuel actor error before after (refused | refused)
    · exact Engine.eq_of_spawn_error refused
    · obtain ⟨answer, middle, ran, rest⟩ := Run.ok_of_bind refused
      cases answer with
      | error error =>
        cases rest
        exact Engine.eq_of_spawn_error ran
      | ok done =>
        obtain ⟨handled, last, pumped, done⟩ := Run.ok_of_bind rest
        cases done

end World

namespace Sample

/-- A machine whose first state runs a tool when it is entered. -/
def banger : ActorSpec where
  interface := []
  behavior := .record [("initial", .str "on"), ("kind", .str "machine"), ("states", .record
    [("on", .record [("entry", .record [("function", .empty)])])])]
  function := some "bang"

/-- A runtime with nothing in it but a tool that breaks off. -/
def armed : World := { empty with tools := ToolRegistry.register {} bang }

/-- Whether a behavior is a machine that begins with its tool. -/
def beginsWithTool : Behavior → Bool
  | .machine definition _ _ => (definition.states.find? definition.initial).any fun node =>
    match node.entry with
    | .function none :: _ => true
    | _ => false
  | .process .. => false

lemma fresh_of_three {supply : Supply} {mint : Nat → Id} (same : supply.mint = mint)
    (count : supply.made = 3) (distinct : ∀ i < 3, ∀ j < 3, mint i = mint j → i = j) :
    supply.Fresh := by
  intro i j hi hj equal
  rw [same] at equal
  exact distinct i (count ▸ hi) j (count ▸ hj) equal

end Sample

/-- A start need not return.  The machine was made, its record is as it was made and it does not run,
but its tool breaks its start pass off, however deep starts may nest. -/
theorem World.createActor_broken_off :
    ∃ after, createActor Sample.banger Sample.armed = .ok (.ok (.ofNat 2)) after ∧
      after.store.supply.Fresh ∧ after.running.contains (.ofNat 2) = false ∧
      ∀ depth, ∃ last, (engine (depth + 1)).spawn (.ofNat 2) after = .error .panic last := by
  obtain ⟨answer, after, made, tested⟩ := Run.exists_of_returns (createActor Sample.banger)
    (fun answer after => answer.toOption == some (.ofNat 2) && after.store.supply.made == 3)
    Sample.armed (by decide +kernel)
  simp only [Bool.and_eq_true, beq_iff_eq] at tested
  obtain ⟨id, count⟩ := tested
  obtain error | actor := answer
  · cases id
  cases id
  have storeFrame := createActor_storeFrame made
  have fresh := Sample.fresh_of_three storeFrame.store.supply.mint count (by decide)
  have stopped : after.running.contains (.ofNat 2) = false := by
    rw [storeFrame.running]
    rfl
  obtain ⟨⟨⟨behavior, loaded⟩, -⟩, inbox, context, founds, -⟩ := createActor_founds made fresh
  have begins : (Behavior.load Sample.banger.behavior Sample.armed.config).toOption.any
      Sample.beginsWithTool = true := by decide +kernel
  rw [loaded] at begins
  cases behavior with
  | process => cases begins
  | machine definition limit suppressed =>
  simp only [Except.toOption, Option.any_some, Sample.beginsWithTool, Option.any_eq_true] at begins
  obtain ⟨node, found, begins⟩ := begins
  split at begins
  · rename_i rest entry
    rw [← storeFrame.config] at loaded
    have anew : Machine.persistedState? definition (after.store.read context) = none := by
      rw [founds.context]
      rfl
    obtain ⟨tools, admitted⟩ : ∃ tools,
        after.tools.beginCall "bang" Machine.initialEvent.payload = (.ok Sample.bang.code, tools) :=
      ⟨_, by rw [storeFrame.tools]; rfl⟩
    exact ⟨after, made, fresh, stopped, fun depth => Engine.spawnWith_panics stopped
      (actorConfig_of_record founds.record) loaded anew found entry rfl admitted fun _ => rfl⟩
  · cases begins

namespace Sample

/-- Identifiers in turn from the tenth on, and when they are used up the last one. -/
def numbers : Supply := ⟨fun n => .ofNat (min (n + 10) (2 ^ 128 - 1)), 0⟩

/-- The record of an actor that is there already. -/
def sitter : ActorConfig :=
  ⟨["GO"], .ofNat 1, .ofNat 2, .obj [("kind", .str "process")], none, ∅, ∅⟩

/-- A runtime with this actor, which does not run. -/
def hall : World := World.new {} (Store.ofImage numbers image) ⟨.ofNat, 0⟩ ⟨0, 1000⟩

/-- The identifier of the next actor. -/
def doorman : Id := .ofNat 12

/-- A machine that notes something in its context and tells the other actor of it, when it is
started. -/
def usher : ActorSpec where
  interface := ["GO"]
  behavior := .record [("initial", .str "here"), ("kind", .str "machine"), ("states", .record
    [("here", .record [("entry", .arr [.record [("ctx", .record [("here", .bool true)])],
      .record [("tell",
        .record [("payload", .empty), ("target", .id actor), ("type", .str "GO")])]])])])]
  context := .obj [("here", .bool false)]
  schemas := Table.ofList [("GO", .bool true)]

/-- Other settings. -/
def settings : Config := { mutationEvent := "GO", suppressedStates := [] }

/-- What a saved store reads as, taken from the characters of its image. -/
def reread? (store : Store) : Option StoreImage := do
  let (value, rest) ←
    Json.readValue? Json.depthLimit (Json.skipBlanks store.image.toJson.chars)
  if (Json.skipBlanks rest).isEmpty then StoreImage.ofJson? value.arrange else none

lemma reload?_of_reread? {store : Store} {image : StoreImage} (read : reread? store = some image) :
    ∃ loaded, store.reload? = some loaded := by
  simp only [reread?, Option.bind_eq_bind, Option.bind_eq_some_iff, Prod.exists] at read
  obtain ⟨value, rest, parsed, read⟩ := read
  split at read
  · rename_i done
    have whole : Json.ofText? store.image.toJson.text = some value.arrange :=
      Json.ofText?_of_readValue? parsed done
    refine ⟨{ Store.ofImage store.supply image with nextToken := store.nextToken }, ?_⟩
    simp only [Store.reload?, StoreImage.ofText?, StoreImage.text, whole, Option.bind_some, read,
      Option.map_some]
  · cases read

/-- Whether the machine was made with the next identifiers, in a store that can be saved and
loaded. -/
def welcomed (answer : Except RuntimeError Id) (after : World) : Bool :=
  answer.toOption == some doorman && after.store.supply.made == 3 &&
    (after.actorConfig doorman).toOption.any (fun config =>
      config.inbox == .ofNat 10 && config.context == .ofNat 11) &&
    (reread? after.store).isSome

/-- Whether a behavior is no machine that does more, when it enters its first state, than to note
something and to tell the one actor. -/
def tellsOne : Behavior → Bool
  | .machine definition _ _ => definition.named.lists.entries.isEmpty &&
    (definition.states.find? definition.initial).any fun node => node.entry.all fun action =>
      match action with
      | .ctx _ => true
      | .tell send => send.target == actor
      | _ => false
  | .process .. => true

/-- The record of the actor, and what the usher is made from, read as they were written. -/
lemma fixed_records : sitter.toJson.Fixed ∧ usher.behavior.Fixed ∧
    ∀ event schema, usher.schemas.find? event = some schema → schema.Fixed := by
  have one : ∀ (name : String) {value : Json}, value.Fixed → (Json.record [(name, value)]).Fixed :=
    fun name value fixed => Json.fixed_record (by simpa using fixed)
  have bool : ∀ value, (Json.bool value).Fixed := fun _ _ => Json.Survives.bool
  have blank : Json.empty.Fixed := Json.fixed_obj Assoc.sorted_nil fun _ _ found => by cases found
  have tell : (Json.record [("payload", .empty), ("target", .id actor), ("type", .str "GO")]).Fixed :=
    Json.fixed_record (by simp [Json.fixed_str, Json.id, blank])
  have list : (Json.arr [.record [("ctx", .record [("here", .bool true)])],
      .record [("tell",
        .record [("payload", .empty), ("target", .id actor), ("type", .str "GO")])]]).Fixed :=
    Json.fixed_arr (by simp [one, bool, tell])
  have entry := one "entry" list
  refine ⟨?_, Json.fixed_record ?_, fun event schema found => ?_⟩
  · exact ActorConfig.fixed_toJson (one "kind" (Json.fixed_str _)) fun _ _ found => by cases found
  · simp [Json.fixed_str, one "here" entry]
  · have mem := Assoc.mem_of_find?_eq_some found
    simp only [usher, Table.ofList, Assoc.ofList, List.foldl, Assoc.insert, List.mem_cons,
      List.not_mem_nil, or_false, Prod.mk.injEq] at mem
    exact mem.2 ▸ bool true

lemma numbers_ne (made : Nat) {n : Nat} {id : Id} (small : id.bits.toNat < made + 10) (le : made ≤ n)
    (few : made + 10 < 2 ^ 128) : numbers.mint n ≠ id := by
  rintro rfl
  simp only [numbers, Id.ofNat, BitVec.toNat_ofNat] at small
  omega

/-- The two actors form a circle where none of them runs. -/
lemma usher_circle {world : World} (config : world.config = settings) (idle : world.running = ∅)
    (there : world.store.read actor = some sitter.toJson)
    (made : world.store.read doorman = some (usher.config (.ofNat 10) (.ofNat 11)).toJson)
    (mint : world.store.supply.mint = numbers.mint) (count : 3 ≤ world.store.supply.made) :
    world.Circle {actor, doorman} := by
  have either : ∀ id ∈ ({actor, doorman} : Finset Id), id = actor ∨ id = doorman := by simp
  refine World.circle_of_records
    (fun id => if id = actor then sitter else usher.config (.ofNat 10) (.ofNat 11))
    (fun id _ => idle ▸ rfl) (fun id mem => ?_) (fun n le mem => ?_) (by decide)
    fun id mem definition limit suppressed loaded => ?_
  · rcases either id mem with rfl | rfl
    · exact there
    · exact made
  · have other : ∀ id, id.bits.toNat < 13 → numbers.mint n ≠ id := fun id small =>
      numbers_ne 3 small (count.trans le) (by decide)
    rw [mint] at mem
    exact (either _ mem).elim (other actor (by decide)) (other doorman (by decide))
  · rw [config] at loaded
    rcases either id mem with rfl | rfl
    · have process : Behavior.load sitter.behavior settings = .ok (.process ⟨_, _⟩ _) := rfl
      cases process.symm.trans loaded
    · refine ⟨by decide, fun node found list leads action mem => ?_⟩
      have tells : (Behavior.load usher.behavior settings).toOption.any tellsOne = true := by
        decide +kernel
      change Behavior.load usher.behavior settings = _ at loaded
      rw [loaded] at tells
      simp only [Except.toOption, Option.any_some, tellsOne, Bool.and_eq_true, found,
        List.all_eq_true] at tells
      refine leads.forall_mem (P := fun action => action.Confined _ _) (fun action mem => ?_)
        (fun name list found => ?_) action mem
      · have tells := tells.2 action mem
        cases action with
        | ctx => trivial
        | tell send => exact Finset.mem_insert.2 (.inl (by simpa using tells))
        | _ => cases tells
      · rw [NamedActions.find?, Table.find?, List.isEmpty_iff.1 tells.1] at found
        cases found

end Sample

/-- A machine is made, its runtime is saved and begun anew with other settings, and there it is
started, and tells another actor that does not run.  An actor that was never made is not started, and
one without a context is not made. -/
theorem World.createActor_admits_usher :
    ∃ after inbox context restored last running error cause,
      createActor Sample.usher Sample.hall = .ok (.ok Sample.doorman) after ∧
      after.store.supply.Fresh ∧ after.Founds Sample.usher Sample.doorman inbox context ∧
      after.Admits Sample.usher Sample.doorman inbox context ∧
      after.restore? Sample.settings = some restored ∧
      restored.Circle {Sample.actor, Sample.doorman} ∧
      (engine 2).spawn Sample.doorman restored = .ok (.ok ()) last ∧
      last.running.find? Sample.doorman = some running ∧
      running.config = Sample.usher.config inbox context ∧
      (engine 1).spawn (.ofNat 9) Sample.hall = .ok (.error error) Sample.hall ∧
      createActor { Sample.usher with context := .null } Sample.hall =
        .ok (.error (.config cause)) Sample.hall := by
  obtain ⟨answer, after, made, tested⟩ := Run.exists_of_returns (createActor Sample.usher)
    Sample.welcomed Sample.hall (by decide +kernel)
  simp only [Sample.welcomed, Bool.and_eq_true, beq_iff_eq, Option.any_eq_true] at tested
  obtain ⟨⟨⟨id, count⟩, config, recorded, inboxId, contextId⟩, saved⟩ := tested
  obtain error | actor := answer
  · cases id
  cases id
  have storeFrame := createActor_storeFrame made
  have mint : after.store.supply.mint = Sample.numbers.mint := storeFrame.store.supply.mint
  have fresh := Sample.fresh_of_three mint count (by decide)
  have stopped : after.running.contains Sample.doorman = false := by
    rw [storeFrame.running]
    rfl
  obtain ⟨image, read⟩ := Option.isSome_iff_exists.1 saved
  obtain ⟨store, loaded⟩ := Sample.reload?_of_reread? read
  obtain ⟨restored, reload⟩ : ∃ restored, after.restore? Sample.settings = some restored :=
    ⟨_, by rw [restore?, loaded]; rfl⟩
  obtain ⟨-, -, admits, spares⟩ := createActor_admits Sample.usher Sample.hall
  obtain ⟨inbox, context, founds, here, anew⟩ := admits _ _ made fresh
  obtain ⟨actorFixed, behaviorFixed, schemasFixed⟩ := Sample.fixed_records
  have admitted := anew after _ _ rfl behaviorFixed schemasFixed reload
  have formed : restored.Circle {Sample.actor, Sample.doorman} := by
    obtain ⟨-, _, _, -, old⟩ := createActor_founds made fresh
    have kept : after.store.read Sample.actor = some Sample.sitter.toJson := by
      refine old _ ?_
      rintro ⟨n, -, -, same⟩
      rw [mint] at same
      exact Sample.numbers_ne 0 (by decide) n.zero_le (by decide) same
    have doorman := read_of_restore? reload founds.record
      (ActorConfig.fixed_toJson behaviorFixed schemasFixed)
    have actor := read_of_restore? reload kept actorFixed
    rw [actorConfig_of_record founds.record] at recorded
    cases recorded
    cases inboxId
    cases contextId
    obtain ⟨store, reloaded, rfl⟩ := restore?_some reload
    have leads := (Store.supplies_of_reload? reloaded).supply
    exact Sample.usher_circle rfl rfl actor doorman (leads.mint.trans mint) (count ▸ leads.made)
  obtain ⟨last, ran⟩ := admitted.encircled _ formed (by simp) 2 (Finset.card_filter_le _ _)
  obtain ⟨running, found, config, -⟩ := admitted.runs _ _ ran
  obtain ⟨answer, same, missing, failed⟩ := Run.exists_of_returns ((engine 1).spawn (.ofNat 9))
    (fun answer _ => !answer.isOk) Sample.hall (by decide +kernel)
  obtain error | done := answer
  · have unsound : ¬ ({ Sample.usher with context := .null } : ActorSpec).Sound {} :=
      fun sound => by simpa [Json.isObject] using sound.context
    obtain ⟨cause, refused⟩ :=
      (createActor_admits { Sample.usher with context := .null } Sample.hall).1 unsound
    cases spares 1 _ _ _ _ (.inl missing)
    exact ⟨after, inbox, context, restored, last, running, error, cause, made, fresh, founds,
      here after rfl stopped, reload, formed, ran, found, config, missing, refused⟩
  · cases failed

end Troupe
