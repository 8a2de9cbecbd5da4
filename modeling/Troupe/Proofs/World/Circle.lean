import Mathlib.Data.Finset.Card
import Troupe.Proofs.Behavior.StateField
import Troupe.Proofs.Except
import Troupe.Proofs.World.Changes
import Troupe.Proofs.World.Runs

/-!
# Starts that return

A start does not return if a tool breaks its pass off, and it need not if the actors that it tells
are started in turn, and tell others.  Where no tool is called that is all that can happen, and it
does not if those that are told form a circle: they tell nobody outside, and leave the records of
those that are still to be started as they are.  Every start enters one more of the circle among
those that run, so starts nest at most as deep as there are actors in it that do not run.

`Action.Confined` says of an action what it takes, `World.Circle` of the records of some actors in a
state.  Of actors that run nothing is asked but that their inboxes are no records of those that do
not.

## Main results

* `Machine.start_confined`: what a machine asks for when it starts;
* `Engine.runPass_returns`: a pass that is confined to a circle returns;
* `Engine.starts_return`: so do the starts of its actors.
-/

namespace Troupe

/-! ## Actions that are confined to a circle -/

/-- A request calls no tool, delivers to some actors only, and writes to none of some objects. -/
def Request.Confined (circle spared : Finset Id) : Request → Prop
  | .execute op => ∀ object, op.object? = some object → object ∉ spared
  | .deliver target _ => target ∈ circle
  | .callTool .. | .invoke .. => False
  | .read _ | .interfaceOf _ | .registerAsk .. | .remember _ => True

/-- An operation names none of some objects, whatever its template resolves to. -/
def OpAction.Spares (spared : Finset Id) : OpAction → Prop
  | .create _ => True
  | .update id _ | .delete id => ∀ scope value object,
    Template.resolve scope id = .ok value → value.id? = some object → object ∉ spared

/-- An action calls no tool, tells some actors only, and writes to none of some objects. -/
def Action.Confined (circle spared : Finset Id) : Action → Prop
  | .ctx _ | .guard _ | .named _ => True
  | .op action => action.Spares spared
  | .tell send | .ask send => send.target ∈ circle
  | .function _ | .invoke .. => False

/-- The actions that a machine runs when it enters its first state are confined. -/
def MachineDefinition.EntersConfined (definition : MachineDefinition) (circle spared : Finset Id) :
    Prop :=
  ∀ node, definition.states.find? definition.initial = some node →
    ∀ list, definition.named.Leads node.entry list → ∀ action ∈ list, action.Confined circle spared

lemma Action.Confined.mono {circle spared fewer : Finset Id} {action : Action}
    (confined : action.Confined circle spared) (subset : fewer ⊆ spared) :
    action.Confined circle fewer := by
  cases action with
  | op action =>
    cases action with
    | create => trivial
    | update | delete =>
      intro scope value object resolved named mem
      exact confined scope value object resolved named (subset mem)
  | _ => exact confined

namespace Activation

open Pass

variable {circle spared : Finset Id} {occasion : Occasion} (activation : Activation)

/-- An identifier is what the template resolves to that names an object. -/
lemma exists_of_objectId {event : Event} {template : Json} {id : Id}
    (named : activation.objectId event template = .ok id) :
    ∃ scope value, Template.resolve scope template = .ok value ∧ value.id? = some id := by
  obtain ⟨value, resolved, named⟩ := bind_eq_ok.1 named
  refine ⟨activation.scope event, value, mapError_eq_ok.1 resolved, ?_⟩
  split at named
  · rename_i known
    cases named
    exact known
  · cases named

/-- The operation that a confined action resolves to names no object that is to be spared. -/
lemma spares_storeOp {event : Event} {action : OpAction} {op : StoreOp}
    (spares : action.Spares spared) (resolved : activation.storeOp event action = .ok op) :
    (Request.execute op).Confined circle spared := by
  intro object names
  cases action with
  | create value =>
    obtain ⟨content, -, resolved⟩ := bind_eq_ok.1 resolved
    cases resolved
    cases names
  | update template patch =>
    obtain ⟨id, known, resolved⟩ := bind_eq_ok.1 resolved
    obtain ⟨content, -, resolved⟩ := bind_eq_ok.1 resolved
    cases resolved
    cases names
    obtain ⟨scope, value, same, isId⟩ := activation.exists_of_objectId known
    exact spares scope value _ same isId
  | delete template =>
    obtain ⟨id, known, resolved⟩ := bind_eq_ok.1 resolved
    cases resolved
    cases names
    obtain ⟨scope, value, same, isId⟩ := activation.exists_of_objectId known
    exact spares scope value _ same isId

lemma perform_confined {action : Action} (confined : action.Confined circle spared) :
    (activation.perform occasion action).Only (Request.Confined circle spared) := by
  cases action with
  | ctx | guard | named => trivial
  | function | invoke => exact confined.elim
  | op op =>
    change (activation.runOp occasion.event op).Only _
    unfold runOp
    split
    · trivial
    · rename_i resolved
      refine ⟨activation.spares_storeOp confined resolved, fun answer => ?_⟩
      cases answer <;> trivial
  | tell send =>
    change (activation.runTell occasion send).Only _
    unfold runTell
    split
    · trivial
    · refine ⟨confined, fun answer => ?_⟩
      cases answer <;> trivial
  | ask send =>
    change (activation.runAsk occasion send).Only _
    unfold runAsk
    split
    · trivial
    · refine ⟨trivial, fun answer => ?_⟩
      cases answer with
      | error => trivial
      | ok accepted =>
        dsimp only
        split
        · refine ⟨trivial, fun correlation => ⟨confined, fun answer => ?_⟩⟩
          cases answer <;> trivial
        · trivial

lemma failed_confined (told : ∀ target ∈ occasion.replyTargets, target ∈ circle)
    (error : ActionError) :
    (activation.failed occasion error).Only (Request.Confined circle spared) := by
  refine only_bind ?_ fun _ => trivial
  unfold Occasion.fail
  split
  · trivial
  · exact Occasion.sendEach_only told

/-- Running a list of actions that are confined, those of the lists that it leads to included,
nothing else is asked for. -/
theorem run_confined (told : ∀ target ∈ occasion.replyTargets, target ∈ circle)
    {actions : List Action} (confined : ∀ list, occasion.named.Leads actions list →
      ∀ action ∈ list, action.Confined circle spared) :
    (activation.run occasion actions).Only (Request.Confined circle spared) := by
  have builds : Builds occasion (occasion.named.Reaches actions)
      fun _ pass => pass.Only (Request.Confined circle spared) := {
    done := fun _ => trivial
    bind := fun first rest _ => only_bind first rest
    failed := fun activation error _ => activation.failed_confined told error
    action := fun activation action may => by
      obtain ⟨list, leads, mem⟩ := may
      refine only_bind (perform_confined _ (confined list leads action mem)) fun result => ?_
      cases result with
      | ok step => trivial
      | error error => exact failed_confined _ told error
    find := fun may => may.find }
  exact builds.run (fun action => .self) activation

end Activation

/-- When a machine starts it asks for nothing but what its entry actions do, and it updates its
context and tells itself. -/
theorem Machine.start_confined {definition : MachineDefinition} {actor : Actor}
    {circle spared : Finset Id} (own : actor.id ∈ circle) (context : actor.config.context ∉ spared)
    (enters : definition.EntersConfined circle spared) (memory : Memory) :
    (Machine.start definition actor memory).Only (Request.Confined circle spared) := by
  have told : ∀ target ∈ (occasion definition actor initialEvent).replyTargets, target ∈ circle :=
    fun target mem => List.mem_singleton.1 mem ▸ own
  refine Pass.only_bind ⟨trivial, fun _ => trivial⟩ fun stored => ?_
  split
  · exact ⟨trivial, trivial⟩
  refine Pass.only_bind ⟨trivial, fun _ => trivial⟩ fun activation => ?_
  refine Pass.only_bind ?_ fun activation => Pass.only_bind ⟨trivial, trivial⟩ fun _ =>
    Pass.only_bind ?_ fun _ => ⟨trivial, trivial⟩
  · unfold enter
    split
    · trivial
    · rename_i node found
      refine Pass.only_bind (Activation.run_confined _ told (enters node found)) fun step => ?_
      obtain ⟨flow, activation⟩ := step
      dsimp only
      split
      · split
        · refine Pass.only_bind (Occasion.sendEach_only fun target mem => ?_) fun _ => trivial
          exact List.mem_singleton.1 mem ▸ own
        · trivial
      · trivial
  · obtain ⟨next, eq, -, sends⟩ :=
      (occasion definition actor initialEvent).finish_eq activation
    rw [eq]
    refine ⟨fun object named => ?_, fun answer => (sends answer).mono fun request only => ?_⟩
    · cases named
      exact context
    · cases request with
      | deliver => exact (only : _ = actor.id) ▸ own
      | _ => exact only.elim

/-! ## Circles -/

namespace World

variable {circle : Finset Id} {world before after : World} {id : Id}

/-- Those of some actors that do not run. -/
def still (world : World) (circle : Finset Id) : Finset Id :=
  circle.filter fun id => world.running.contains id = false

lemma mem_still : id ∈ world.still circle ↔ id ∈ circle ∧ world.running.contains id = false :=
  Finset.mem_filter

/-- Some actors that can be started without tools, and without anybody else. -/
structure Circle (world : World) (circle : Finset Id) : Prop where
  /-- No identifier that is still to be handed out is one of those that do not run. -/
  apart : ∀ n, world.store.supply.made ≤ n → world.store.supply.mint n ∉ world.still circle
  /-- Messages to them go to no record of one that does not run. -/
  inboxes : ∀ id ∈ circle, ∀ inbox,
    Inbox.inboxOf (some world.store) (world.liveInbox? id) id = .ok inbox →
      inbox ∉ world.still circle
  /-- Nor do they when one of those is started. -/
  homes : ∀ id ∈ world.still circle, ∀ config, world.actorConfig id = .ok config →
    config.inbox ∉ world.still circle
  /-- A machine among those, when it is started, runs entry actions that do not leave the circle, and
  neither they nor the update of its context write the record of another. -/
  entries : ∀ id ∈ world.still circle, ∀ config definition limit suppressed,
    world.actorConfig id = .ok config →
    Behavior.load config.behavior world.config = .ok (.machine definition limit suppressed) →
      config.context ∉ (world.still circle).erase id ∧
        definition.EntersConfined circle ((world.still circle).erase id)

/-- What an actor is started with is read from its record. -/
lemma actorConfig_congr (same : after.store.read id = before.store.read id) :
    after.actorConfig id = before.actorConfig id := by
  rw [actorConfig, actorConfig, Inbox.readConfig, Inbox.readConfig, same]

/-- Actors that run form a circle. -/
lemma circle_of_still (none : world.still circle = ∅) : world.Circle circle := by
  constructor <;> simp [none]

/-- A circle stays one as long as the records of those that do not run stay. -/
lemma Circle.of_reads (formed : before.Circle circle)
    (supply : before.store.supply.Leads after.store.supply) (config : after.config = before.config)
    (still : after.still circle ⊆ before.still circle)
    (reads : ∀ id ∈ after.still circle, after.store.read id = before.store.read id)
    (inboxes : ∀ id ∈ circle, ∀ running, after.running.find? id = some running →
      running.config.inbox ∉ before.still circle) : after.Circle circle where
  apart n made mem := by
    rw [supply.mint] at mem
    exact formed.apart n (supply.made.trans made) (still mem)
  inboxes id mem inbox routed inStill := by
    cases found : after.running.find? id with
    | some running =>
      rw [liveInbox?, found] at routed
      cases routed
      exact inboxes id mem running found (still inStill)
    | none =>
      have stopped : id ∈ after.still circle := mem_still.2 ⟨mem, by rw [Table.contains, found]; rfl⟩
      have before_none : before.liveInbox? id = none := by
        rw [liveInbox?, Table.find?_of_not_contains (mem_still.1 (still stopped)).2]
        rfl
      refine formed.inboxes id mem inbox ?_ (still inStill)
      rw [liveInbox?, found, Option.map_none, Inbox.inboxOf, Inbox.readConfig, reads id stopped]
        at routed
      rwa [before_none]
  homes id mem record recorded inStill := by
    rw [actorConfig_congr (reads id mem)] at recorded
    exact formed.homes id (still mem) record recorded (still inStill)
  entries id mem record definition limit suppressed recorded loaded := by
    rw [actorConfig_congr (reads id mem)] at recorded
    obtain ⟨context, enters⟩ := formed.entries id (still mem) record definition limit suppressed
      recorded (by rwa [← config])
    have fewer := Finset.erase_subset_erase id still
    exact ⟨fun mem => context (fewer mem), fun node found list leads action mem =>
      (enters node found list leads action mem).mono fewer⟩

/-- Writes that leave the records of those that do not run alone. -/
lemma Circle.of_storeFrame (formed : before.Circle circle) (storeFrame : before.StoreFrame after)
    (reads : ∀ id ∈ before.still circle, after.store.read id = before.store.read id) :
    after.Circle circle ∧ after.still circle = before.still circle := by
  have still : after.still circle = before.still circle := by
    rw [World.still, storeFrame.running]
    rfl
  refine ⟨formed.of_reads storeFrame.store.supply storeFrame.config still.subset
    (fun id mem => reads id (still ▸ mem)) fun id mem running found => ?_, still⟩
  rw [storeFrame.running] at found
  exact formed.inboxes id mem _ (by rw [liveInbox?, found]; rfl)

lemma still_congr (running : ∀ id, (after.running.find? id).map Running.config =
    (before.running.find? id).map Running.config) : after.still circle = before.still circle := by
  refine Finset.filter_congr fun id _ => ?_
  have same := congrArg Option.isSome (running id)
  rw [Option.isSome_map, Option.isSome_map] at same
  rw [Table.contains, Table.contains, same]

/-- Something else happens, and those that run go on running. -/
lemma Circle.of_store (formed : before.Circle circle) (store : after.store = before.store)
    (config : after.config = before.config)
    (running : ∀ id, (after.running.find? id).map Running.config =
      (before.running.find? id).map Running.config) :
    after.Circle circle ∧ after.still circle = before.still circle := by
  have still : after.still circle = before.still circle := still_congr running
  refine ⟨formed.of_reads (store ▸ .refl _) config still.subset (fun id _ => by rw [store])
    fun id mem new found => ?_, still⟩
  have same := running id
  rw [found, Option.map_some, eq_comm, Option.map_eq_some_iff] at same
  obtain ⟨old, there, same⟩ := same
  exact formed.inboxes id mem _ (by rw [liveInbox?, there, ← same]; rfl)

lemma map_config_updateRunning (world : World) (actor : Id) (change : Running → Running)
    (same : ∀ known, (change known).config = known.config) (id : Id) :
    ((world.updateRunning actor change).running.find? id).map Running.config =
      (world.running.find? id).map Running.config := by
  rw [find?_updateRunning]
  split
  · rw [Option.map_map]
    exact Option.map_congr fun known _ => same known
  · rfl

lemma still_turnTo (world : World) (actor : Id) (activity : Activity) (circle : Finset Id) :
    (world.turnTo actor activity).still circle = world.still circle :=
  still_congr (map_config_updateRunning world actor _ fun _ => rfl)

lemma Circle.turnTo (formed : world.Circle circle) (actor : Id) (activity : Activity) :
    (world.turnTo actor activity).Circle circle := by
  have configs := map_config_updateRunning world actor
    (fun running => { running with activity }) fun _ => rfl
  exact (formed.of_store (updateRunning_store _ _ _) (updateRunning_config _ _ _) configs).1

lemma find?_enlist (world : World) (actor : Id) (config : ActorConfig) (behavior : Behavior) :
    ∃ running : Running, running.config = config ∧ ∀ id,
      (world.enlist actor config behavior).running.find? id =
        if actor = id then some running else world.running.find? id :=
  ⟨_, rfl, fun _ => Table.find?_insert _ _ _ _⟩

/-- An actor that is entered among those that run. -/
lemma still_enlist (world : World) (actor : Id) (config : ActorConfig) (behavior : Behavior)
    (circle : Finset Id) :
    (world.enlist actor config behavior).still circle = (world.still circle).erase actor := by
  obtain ⟨running, -, entered⟩ := world.find?_enlist actor config behavior
  ext id
  rw [mem_still, Finset.mem_erase, mem_still, Table.contains, entered]
  by_cases same : actor = id
  · simp [same]
  · simp [same, Ne.symm same, Table.contains]

/-- A post leaves an object alone if the message is another and goes to another. -/
lemma read_post_of_ne {target : Id} (message : Message) (next : id ≠ world.store.supply.next)
    (inboxes : ∀ inbox, Inbox.inboxOf (some world.store) (world.liveInbox? target) target =
      .ok inbox → id ≠ inbox) :
    (world.post target message).2.store.read id = world.store.read id := by
  have made := (Inbox.write_withMessage world.store target message).read_other id next
  rcases world.post_cases target message with
    ⟨inbox, answer, store, routed, pushed, stored, -⟩ | ⟨store, either, done⟩
  · obtain ⟨current, items, -, -, rfl⟩ := Store.push_ok pushed
    rw [stored]
    exact (Store.read_put _ _ _ _).trans ((if_neg (Ne.symm (inboxes inbox routed))).trans made)
  · rw [done, read_withStore]
    rcases either with rfl | rfl
    · rfl
    · exact made

/-- A confined operation leaves the records of those that do not run alone. -/
lemma read_write_of_confined {spared : Finset Id} {op : StoreOp}
    (confined : (Request.execute op).Confined circle spared) (mem : id ∈ spared)
    (apart : ∀ n, world.store.supply.made ≤ n → world.store.supply.mint n ≠ id) :
    (world.write op).2.store.read id = world.store.read id := by
  rcases world.write_cases op with ⟨reads, -, -⟩ | ⟨object, others, named | ⟨-, made⟩, -⟩
  · exact reads id
  · exact others id fun same => confined object named (same ▸ mem)
  · obtain ⟨n, le, -, rfl⟩ := made
    refine others id fun same => apart n le ?_
    rw [same, (world.write_storeFrame op).store.supply.mint]

end World

/-! ## Computations that return -/

namespace Run

variable {α β : Type} {circle : Finset Id} {world : World}

/-- Where some actors form a circle, a computation returns.  They form one still, and those that ran
go on running. -/
def Returns (circle : Finset Id) (run : Run α) (world : World) : Prop :=
  world.Circle circle → ∃ result after, run world = .ok result after ∧ after.Circle circle ∧
    after.still circle ⊆ world.still circle

namespace Returns

lemma pure (result : α) (world : World) : Returns circle (Pure.pure result : Run α) world :=
  fun formed => ⟨result, world, rfl, formed, subset_rfl⟩

lemma get {next : World → Run α} (returns : Returns circle (next world) world) :
    Returns circle (MonadState.get >>= next) world := returns

lemma bind {first : Run α} {next : α → Run β} (begins : Returns circle first world)
    (goesOn : ∀ result middle, first world = .ok result middle →
      middle.still circle ⊆ world.still circle → Returns circle (next result) middle) :
    Returns circle (first >>= next) world := by
  intro formed
  obtain ⟨result, middle, ran, formed, fewer⟩ := begins formed
  obtain ⟨last, after, rest, formed, fewer'⟩ := goesOn result middle ran fewer formed
  exact ⟨last, after, (bind_of_ok ran).trans rest, formed, fewer'.trans fewer⟩

lemma modifyGet {change : World → α × World} (keeps : world.Circle circle →
      (change world).2.Circle circle ∧ (change world).2.still circle = world.still circle) :
    Returns circle (modifyGet change : Run α) world :=
  fun formed => ⟨_, _, rfl, (keeps formed).1, (keeps formed).2.subset⟩

lemma modify {change : World → World} (keeps : world.Circle circle →
      (change world).Circle circle ∧ (change world).still circle = world.still circle) :
    Returns circle (modify change : Run PUnit) world :=
  fun formed => ⟨_, _, rfl, (keeps formed).1, (keeps formed).2.subset⟩

end Returns

end Run

namespace Engine

open World

variable {α : Type} {engine : Engine} {circle : Finset Id} {world : World} {depth : Nat}

/-- An actor of a circle that does not run is started, if no more than so many do not. -/
def StartsWithin (engine : Engine) (circle : Finset Id) (depth : Nat) : Prop :=
  ∀ id world, id ∈ world.still circle → (world.still circle).card ≤ depth →
    Run.Returns circle (engine.spawn id) world

lemma startsWithin_zero (engine : Engine) (circle : Finset Id) : engine.StartsWithin circle 0 :=
  fun id _ mem few => absurd (Finset.card_pos.2 ⟨id, mem⟩) (Nat.not_lt.2 few)

lemma post_returns (starts : engine.StartsWithin circle depth) {target : Id} (message : Message)
    (told : target ∈ circle) (few : (world.still circle).card ≤ depth) :
    Run.Returns circle (engine.post target message) world := by
  have posted : Run.Returns circle
      (modifyGet fun world : World => world.post target message) world := by
    refine .modifyGet fun formed => ?_
    refine formed.of_storeFrame (world.post_storeFrame target message)
      fun id mem => read_post_of_ne message ?_ ?_
    · rintro rfl
      exact formed.apart _ (Nat.le_refl _) mem
    · rintro inbox routed rfl
      exact formed.inboxes target told id routed mem
  refine .get (posted.bind fun result middle ran fewer => ?_)
  cases result with
  | error error => exact .pure _ _
  | ok id =>
    dsimp only
    split
    · rename_i stopped
      obtain ⟨-, rfl⟩ := EStateM.Result.ok.inj ran
      have still : target ∈ (world.post target message).2.still circle := by
        rw [mem_still, (world.post_storeFrame target message).running]
        exact ⟨told, by simpa using stopped⟩
      exact (starts target _ still ((Finset.card_le_card fewer).trans few)).bind
        fun _ _ _ _ => .pure _ _
    · exact .pure _ _

/-- A pass that is confined to a circle returns. -/
theorem runPass_returns (starts : engine.StartsWithin circle depth) {actor : Id} {pass : Pass α}
    {spared : Finset Id} (confined : pass.Only (Request.Confined circle spared))
    (spares : world.still circle ⊆ spared) (few : (world.still circle).card ≤ depth) :
    Run.Returns circle (engine.runPass actor pass) world := by
  induction pass generalizing world with
  | done result => exact .pure _ _
  | read id next ih => exact .get (ih _ (confined.2 _) spares few)
  | execute op next ih =>
    refine Run.Returns.bind (.modifyGet fun formed => ?_) fun result middle _ fewer =>
      ih result (confined.2 _) (fewer.trans spares) ((Finset.card_le_card fewer).trans few)
    refine formed.of_storeFrame (world.write_storeFrame op) fun id mem =>
      read_write_of_confined confined.1 (spares mem) fun n made same => ?_
    exact formed.apart n made (same ▸ mem)
  | callTool | invoke => exact confined.1.elim
  | deliver target message next ih =>
    exact (post_returns starts message confined.1 few).bind fun result middle _ fewer =>
      ih _ (confined.2 _) (fewer.trans spares) ((Finset.card_le_card fewer).trans few)
  | interfaceOf target next ih => exact .get (ih _ (confined.2 _) spares few)
  | registerAsk asker target event next ih =>
    refine Run.Returns.bind (.modifyGet fun formed => ?_) fun correlation middle _ fewer =>
      ih correlation (confined.2 _) (fewer.trans spares) ((Finset.card_le_card fewer).trans few)
    exact formed.of_store rfl rfl fun _ => rfl
  | remember memory next ih =>
    refine Run.Returns.bind (.modify fun formed => ?_) fun _ middle _ fewer =>
      ih confined.2 (fewer.trans spares) ((Finset.card_le_card fewer).trans few)
    exact formed.of_store (updateRunning_store _ _ _) (updateRunning_config _ _ _)
      (map_config_updateRunning _ _ (fun running => { running with memory }) fun _ => rfl)

/-- An actor of a circle is entered among those that run. -/
lemma enlist_circle (formed : world.Circle circle) {id : Id} (mem : id ∈ world.still circle)
    {config : ActorConfig} (recorded : world.actorConfig id = .ok config) (behavior : Behavior) :
    (world.enlist id config behavior).Circle circle := by
  obtain ⟨new, same, entered⟩ := world.find?_enlist id config behavior
  have fewer : (world.enlist id config behavior).still circle ⊆ world.still circle :=
    still_enlist world id config behavior circle ▸ Finset.erase_subset _ _
  refine formed.of_reads (.refl _) rfl fewer (fun _ _ => rfl) fun other told running found => ?_
  rw [entered] at found
  split at found
  · cases found
    exact same ▸ formed.homes id mem config recorded
  · exact formed.inboxes other told _ (by rw [liveInbox?, found]; rfl)

/-- What an actor of a circle asks for when it is started is confined to the circle. -/
lemma start_confined (formed : world.Circle circle) {id : Id} (mem : id ∈ world.still circle)
    {config : ActorConfig} {behavior : Behavior} (recorded : world.actorConfig id = .ok config)
    (loaded : Behavior.load config.behavior world.config = .ok behavior) :
    (behavior.start ⟨id, config⟩ behavior.initialMemory).Only
      (Request.Confined circle ((world.still circle).erase id)) := by
  cases behavior with
  | process => trivial
  | machine definition limit suppressed =>
    obtain ⟨context, enters⟩ :=
      formed.entries id mem config definition limit suppressed recorded loaded
    exact Machine.start_confined (mem_still.1 mem).1 context enters _

lemma spawnWith_returns (starts : engine.StartsWithin circle depth) {id : Id}
    (mem : id ∈ world.still circle) (few : (world.still circle).card ≤ depth + 1) :
    Run.Returns circle (engine.spawnWith id) world := by
  intro formed
  have passes : ∀ config behavior, world.actorConfig id = .ok config →
      Behavior.load config.behavior world.config = .ok behavior → ∃ last,
        engine.runPass id (behavior.start ⟨id, config⟩ behavior.initialMemory)
          ((world.enlist id config behavior).turnTo id .starting) = .ok () last ∧
        last.Circle circle ∧ last.still circle ⊆ world.still circle := by
    intro config behavior recorded loaded
    have begun := (enlist_circle formed mem recorded behavior).turnTo id .starting
    have fewer : ((world.enlist id config behavior).turnTo id .starting).still circle =
        (world.still circle).erase id := (still_turnTo _ _ _ _).trans (still_enlist _ _ _ _ _)
    obtain ⟨result, last, ran, formed, rest⟩ :=
      runPass_returns starts (start_confined formed mem recorded loaded) fewer.subset
        (by rw [fewer, Finset.card_erase_of_mem mem]; omega) begun
    exact ⟨last, ran, formed, rest.trans (fewer ▸ Finset.erase_subset _ _)⟩
  have startup := engine.spawnWith_startup id world
  generalize engine.spawnWith id world = result at startup ⊢
  cases startup with
  | running | unrecorded | unloaded => exact ⟨_, world, rfl, formed, subset_rfl⟩
  | @passed config behavior last _ recorded loaded passed =>
    obtain ⟨last, ran, formed, fewer⟩ := passes config behavior recorded loaded
    cases ran.symm.trans passed
    obtain ⟨queued, same⟩ :=
      (formed.turnTo id .idle).of_storeFrame (schedule_storeFrame _ id) fun _ _ => rfl
    refine ⟨_, _, rfl, queued, ?_⟩
    rwa [same, still_turnTo]
  | @halted config behavior halt last _ recorded loaded halted =>
    obtain ⟨last, ran, -⟩ := passes config behavior recorded loaded
    cases ran.symm.trans halted

/-- A machine that tells nobody but itself and actors that run starts without starting others. -/
lemma start_returns (engine : Engine) {actor : Id} {definition : MachineDefinition}
    (enters : definition.EntersConfined circle ∅) (own : actor ∈ circle)
    (runs : ∀ id ∈ circle, id = actor ∨ world.running.contains id = true) (config : ActorConfig)
    (behavior : Behavior) (memory : Memory) : ∃ last,
      engine.runPass actor (Machine.start definition ⟨actor, config⟩ memory)
        ((world.enlist actor config behavior).turnTo actor .starting) = .ok () last := by
  have none : ((world.enlist actor config behavior).turnTo actor .starting).still circle = ∅ := by
    rw [still_turnTo, still_enlist, Finset.eq_empty_iff_forall_notMem]
    intro id mem
    obtain ⟨ne, mem⟩ := Finset.mem_erase.1 mem
    obtain ⟨told, stopped⟩ := mem_still.1 mem
    exact absurd ((runs id told).resolve_left ne) (Bool.eq_false_iff.1 stopped)
  have confined : (Machine.start definition ⟨actor, config⟩ memory).Only _ :=
    Machine.start_confined own (Finset.notMem_empty config.context) enters memory
  obtain ⟨result, last, ran, -⟩ :=
    runPass_returns (engine.startsWithin_zero circle) confined none.subset (by simp [none])
      (circle_of_still none)
  exact ⟨last, ran⟩

/-- **Where actors form a circle, their starts return.**  They do if starts may nest as deep as there
are actors that do not run. -/
theorem starts_return (depth : Nat) : (Troupe.engine depth).StartsWithin circle depth := by
  induction depth with
  | zero => exact startsWithin_zero _ circle
  | succ depth ih => exact fun id world mem few => spawnWith_returns ih mem few

end Engine

end Troupe
