import Troupe.Proofs.World.Changes
import Troupe.Proofs.World.Screening

/-!
# Actors are isolated

While one actor handles an entry, others may be started and any number of messages sent, and each of
these writes to the store.  All of it can be accounted for: besides its own context, the entry and
the inboxes of those that messages are sent to, only what operations name is written, and the
contexts of actors that are started meanwhile.  A context of another running actor is none of these,
as long as no record leads to it.

A record can be made to lead to it meanwhile.  What an actor writes is not checked, be it a record
or its own context, and any object with a field `inbox` will do as the target of a message
(`Engine.contexts_are_no_shelter`).

## Main results

* `Engine.engine_ascribes`: all that is written by starts was ordered by those that were started;
* `Engine.isolates`: what the handling of an entry may change.
-/

namespace Troupe

/-! ## Tools that do not write -/

namespace Script

/-- A script carries out no store operation. -/
def Reads {α : Type} : Script α → Prop
  | .done _ | .panic => True
  | .read _ next => ∀ value, (next value).Reads
  | .execute .. => False
  | .deliver _ _ next => ∀ result, (next result).Reads
  | .pump next => ∀ handled, (next handled).Reads

end Script

namespace ToolRegistry

/-- No registered tool carries out a store operation. -/
def Reads (registry : ToolRegistry) : Prop :=
  ∀ name tool, registry.tools.find? name = some tool →
    ∀ view payload, (tool.code view payload).Reads

lemma Reads.of_tools {registry other : ToolRegistry} (reads : registry.Reads)
    (same : other.tools = registry.tools) : other.Reads := by
  rwa [Reads, same]

end ToolRegistry

/-! ## Who writes -/

/-- An actor writes an object when it handles an event: an action of its behavior comes to the
operation, or its context is updated at the end of the pass. -/
def Behavior.Writes (behavior : Behavior) (config : ActorConfig) (event : Event) (object : Id)
    (op : StoreOp) : Prop :=
  behavior.Orders event op ∨ object = config.context ∧ ∃ patch, op = .update object patch

/-- What an actor writes when it starts. -/
def Behavior.Starts (behavior : Behavior) (config : ActorConfig) : Note → Prop
  | .wrote object op => behavior.Writes config Machine.initialEvent object op
  | _ => False

namespace World

variable {own : Note → Prop} {world before middle after : World}

/-- Everything that was written or marked since was so on someone's own account, or it was written
by an actor that was started since, when it started. -/
structure Ascribes (own : Note → Prop) (before after : World) : Prop where
  /-- Queued actors are being served. -/
  pumping : after.pumping = true
  /-- Tools do not write. -/
  tools : after.tools.Reads
  /-- What happened stays, -/
  journal : before.journal <:+ after.journal
  /-- and so does what is known of running actors. -/
  running : ∀ id old, before.running.find? id = some old → ∃ new,
    after.running.find? id = some new ∧ new.config = old.config ∧ new.behavior = old.behavior
  /-- What was written, -/
  wrote : ∀ object op, before.Newly after (.wrote object op) → own (.wrote object op) ∨
    ∃ id new, before.running.contains id = false ∧ after.running.find? id = some new ∧
      new.behavior.Writes new.config Machine.initialEvent object op
  /-- and what was marked. -/
  marked : ∀ message, before.Newly after (.marked message) → own (.marked message)

namespace Ascribes

protected lemma trans (first : before.Ascribes own middle) (second : middle.Ascribes own after) :
    before.Ascribes own after where
  pumping := second.pumping
  tools := second.tools
  journal := first.journal.trans second.journal
  running id old found := by
    obtain ⟨mid, found, config, behavior⟩ := first.running id old found
    obtain ⟨new, found, config', behavior'⟩ := second.running id mid found
    exact ⟨new, found, config'.trans config, behavior'.trans behavior⟩
  wrote object op new := by
    rcases new.cases first.journal second.journal with early | late
    · refine (first.wrote object op early).imp_right ?_
      rintro ⟨id, mid, stopped, found, writes⟩
      obtain ⟨new, found, config, behavior⟩ := second.running id mid found
      exact ⟨id, new, stopped, found, by rwa [config, behavior]⟩
    · refine (second.wrote object op late).imp_right ?_
      rintro ⟨id, new, stopped, found, writes⟩
      -- an actor that did not run in the middle did not run before
      refine ⟨id, new, Bool.eq_false_iff.2 fun runs => ?_, found, writes⟩
      obtain ⟨old, there⟩ := Option.isSome_iff_exists.1 runs
      obtain ⟨mid, there, -⟩ := first.running id old there
      rw [Table.contains, there] at stopped
      cases stopped
  marked message new := by
    rcases new.cases first.journal second.journal with early | late
    · exact first.marked message early
    · exact second.marked message late

/-- All that was written or marked is on one's own account. -/
lemma of_notes (notes : List Note) (pumping : after.pumping = true) (reads : after.tools.Reads)
    (journal : after.journal = notes ++ before.journal)
    (running : ∀ id old, before.running.find? id = some old → ∃ new,
      after.running.find? id = some new ∧ new.config = old.config ∧ new.behavior = old.behavior)
    (owned : ∀ note ∈ notes, ((∃ object op, note = .wrote object op) ∨
      ∃ message, note = .marked message) → own note) :
    before.Ascribes own after where
  pumping := pumping
  tools := reads
  journal := journal ▸ List.suffix_append _ _
  running := running
  wrote object op new := .inl (owned _ ((newly_iff _ journal).1 new) (.inl ⟨object, op, rfl⟩))
  marked message new := owned _ ((newly_iff _ journal).1 new) (.inr ⟨message, rfl⟩)

/-- Nothing is noted, and what is known of running actors stays. -/
lemma of_same (pumping : after.pumping = true) (reads : after.tools.Reads)
    (journal : after.journal = before.journal) (running : after.running = before.running) :
    before.Ascribes own after :=
  of_notes [] pumping reads journal
    (fun _ old found => ⟨old, running ▸ found, rfl, rfl⟩) (by simp)

protected lemma refl (pumping : world.pumping = true) (reads : world.tools.Reads) :
    world.Ascribes own world :=
  of_same pumping reads rfl rfl

end Ascribes

/-- What is known of one running actor changes, but for its record and its behavior. -/
lemma updateRunning_ascribes (pumping : world.pumping = true) (reads : world.tools.Reads)
    (actor : Id) {change : Running → Running} (config : ∀ known, (change known).config = known.config)
    (behavior : ∀ known, (change known).behavior = known.behavior) :
    world.Ascribes own (world.updateRunning actor change) := by
  refine .of_notes [] ?_ ?_ (updateRunning_journal _ _ _) (fun id old found => ?_) (by simp)
  · rw [updateRunning_pumping, pumping]
  · rw [updateRunning_frame]
    exact reads
  · rw [find?_updateRunning, found]
    split
    · exact ⟨_, rfl, config old, behavior old⟩
    · exact ⟨_, rfl, rfl, rfl⟩

lemma turnTo_ascribes (world : World) (pumping : world.pumping = true)
    (reads : world.tools.Reads) (actor : Id) (activity : Activity) :
    world.Ascribes own (world.turnTo actor activity) :=
  updateRunning_ascribes pumping reads actor (fun _ => rfl) fun _ => rfl

lemma schedule_ascribes (pumping : world.pumping = true) (reads : world.tools.Reads) (actor : Id) :
    world.Ascribes own (world.schedule actor) :=
  .of_same pumping reads rfl rfl

/-- What an actor has written since it was entered was written by an actor that was started. -/
lemma Ascribes.of_start {id : Id} {config : ActorConfig} {behavior : Behavior}
    (stopped : world.running.contains id = false)
    (starts : (world.enlist id config behavior).Ascribes (behavior.Starts config) after) :
    world.Ascribes own after := by
  obtain ⟨known, same, same', entered⟩ : ∃ known : Running, known.config = config ∧
      known.behavior = behavior ∧ ∀ other, (world.enlist id config behavior).running.find? other =
        if id = other then some known else world.running.find? other :=
    ⟨_, rfl, rfl, fun other => Table.find?_insert _ _ _ _⟩
  have others : ∀ {other old}, world.running.find? other = some old → id ≠ other := by
    rintro other old found rfl
    rw [Table.contains, found] at stopped
    cases stopped
  have noted : (world.enlist id config behavior).journal =
      [.spawned id config.inbox] ++ world.journal := rfl
  have silent : ∀ {note}, world.Newly after note → note.ofStore = true →
      (world.enlist id config behavior).Newly after note := by
    intro note new kind
    refine (new.cases ⟨_, noted.symm⟩ starts.journal).resolve_left fun early => ?_
    cases List.mem_singleton.1 ((newly_iff [_] noted).1 early)
    cases kind
  refine ⟨starts.pumping, starts.tools, List.IsSuffix.trans ⟨_, noted.symm⟩ starts.journal,
    fun other old found => ?_, fun object op new => .inr ?_, fun message new => ?_⟩
  · exact starts.running other old ((entered other).trans ((if_neg (others found)).trans found))
  · rcases starts.wrote object op (silent new rfl) with own | ⟨other, new, still, found, writes⟩
    · obtain ⟨new, found, kept, kept'⟩ := starts.running id _ ((entered id).trans (if_pos rfl))
      refine ⟨id, new, stopped, found, ?_⟩
      rw [kept, kept', same, same']
      exact own
    · refine ⟨other, new, ?_, found, writes⟩
      rw [Table.contains, entered] at still
      split at still
      · cases still
      · exact still
  · exact (starts.marked message (silent new rfl)).elim

lemma StoreFrame.ascribes (storeFrame : before.StoreFrame after) (pumping : before.pumping = true)
    (reads : before.tools.Reads) (notes : List Note)
    (journal : after.journal = notes ++ before.journal)
    (owned : ∀ note ∈ notes, ((∃ object op, note = .wrote object op) ∨
      ∃ message, note = .marked message) → own note) : before.Ascribes own after :=
  .of_notes notes (storeFrame.pumping.trans pumping) (reads.of_tools (by rw [storeFrame.frame]))
    journal (fun _ old found => ⟨old, storeFrame.running ▸ found, rfl, rfl⟩) owned

/-- A store operation is carried out on someone's own account. -/
lemma write_ascribes (pumping : world.pumping = true) (reads : world.tools.Reads) {op : StoreOp}
    (orders : ∀ object, (∀ named, op.object? = some named → object = named) →
      own (.wrote object op)) :
    world.Ascribes own (world.write op).2 := by
  have storeFrame := world.write_storeFrame op
  rcases world.write_cases op with ⟨-, -, journal⟩ | ⟨object, -, named, journal⟩
  · exact storeFrame.ascribes pumping reads [] journal (by simp)
  · refine storeFrame.ascribes pumping reads [_] journal fun note mem _ => ?_
    rw [List.mem_singleton.1 mem]
    refine orders object fun id same => ?_
    rcases named with named | ⟨none, -⟩
    · exact Option.some.inj (named.symm.trans same)
    · rw [none] at same
      cases same

lemma post_ascribes (pumping : world.pumping = true) (reads : world.tools.Reads) (target : Id)
    (message : Message) : world.Ascribes own (world.post target message).2 := by
  obtain ⟨rest, journal, posts⟩ := world.post_journal target message
  refine (world.post_storeFrame target message).ascribes pumping reads
    (rest ++ [.sent target message]) (by simpa using journal) fun note mem kind => ?_
  rcases List.mem_append.1 mem with posted | sent
  · obtain ⟨id, inbox, rfl⟩ := posts note posted
    simp at kind
  · rw [List.mem_singleton.1 sent] at kind
    simp at kind

/-- A message is marked on someone's own account. -/
lemma mark_ascribes (pumping : world.pumping = true) (reads : world.tools.Reads) {message : Id}
    (owned : own (.marked message)) : world.Ascribes own (world.mark message) := by
  obtain ⟨notes, journal, marks⟩ := world.mark_journal message
  refine (world.mark_storeFrame message).ascribes pumping reads notes journal fun note mem _ => ?_
  rcases marks with rfl | rfl
  · cases mem
  · exact List.mem_singleton.1 mem ▸ owned

end World

/-! ## Computations whose writes are ascribed -/

/-- With tools that do not write, what a computation writes while queued actors are being served is
written on someone's own account, or by actors when they start. -/
def Run.Ascribes {α : Type} (own : Note → Prop) (run : Run α) (world : World) : Prop :=
  world.pumping = true → world.tools.Reads →
    Run.Keeps (World.Ascribes own) (World.Ascribes own) run world

namespace Run.Ascribes

variable {α β : Type} {own : Note → Prop} {world : World}

lemma pure (result : α) (world : World) : Run.Ascribes own (Pure.pure result : Run α) world :=
  fun pumping reads => .refl pumping reads

lemma throw (halt : Halt) (world : World) : Run.Ascribes own (MonadExcept.throw halt : Run α) world :=
  fun pumping reads => .refl pumping reads

lemma get {next : World → Run α} (ascribes : Run.Ascribes own (next world) world) :
    Run.Ascribes own (MonadState.get >>= next) world := ascribes

lemma modifyGet {change : World → α × World}
    (changes : world.pumping = true → world.tools.Reads → world.Ascribes own (change world).2) :
    Run.Ascribes own (modifyGet change : Run α) world := changes

lemma modify {change : World → World}
    (changes : world.pumping = true → world.tools.Reads → world.Ascribes own (change world)) :
    Run.Ascribes own (modify change : Run PUnit) world := changes

/-- What follows a computation starts where the computation ends. -/
lemma bind {first : Run α} {next : α → Run β} (ascribes : Run.Ascribes own first world)
    (goesOn : ∀ result middle, first world = .ok result middle → world.Ascribes own middle →
      Run.Ascribes own (next result) middle) : Run.Ascribes own (first >>= next) world := by
  intro pumping reads
  have begins := ascribes pumping reads
  cases ran : first world with
  | ok result middle =>
    have reached := begins.ok ran
    have rest := goesOn result middle ran reached reached.pumping reached.tools
    rw [Run.Keeps, Run.bind_of_ok ran]
    rw [Run.Keeps] at rest
    cases ended : next result middle <;> rw [ended] at rest <;> exact reached.trans rest
  | error halt middle =>
    rw [Run.Keeps, Run.bind_of_error ran]
    exact begins.error ran

end Run.Ascribes

/-- What an engine does for passes and tools is ascribed to actors that start. -/
structure Engine.Ascribes (engine : Engine) : Prop where
  /-- Starting an actor. -/
  spawn : ∀ own id world, Run.Ascribes own (engine.spawn id) world
  /-- Pumping. -/
  pump : ∀ own world, Run.Ascribes own engine.pump world

/-- What a request has written is written on someone's own account. -/
def Request.Owned (own : Note → Prop) : Request → Prop
  | .execute op => ∀ object, (∀ named, op.object? = some named → object = named) →
      own (.wrote object op)
  | _ => True

/-- Whatever a behavior has written when it handles an event is written by its actor. -/
lemma Behavior.permits_owned {behavior : Behavior} {actor : Actor} {event : Event}
    {own : Note → Prop} (owns : ∀ object op, behavior.Writes actor.config event object op →
      own (.wrote object op)) : behavior.Permits actor event (Request.Owned own) where
  speaks request speaks := by
    cases request with
    | execute => exact speaks.elim
    | _ => trivial
  orders op orders object _ := owns object op (.inl orders)
  read := trivial
  flush patch object named := by
    obtain rfl := named _ rfl
    exact owns _ _ (.inr ⟨rfl, patch, rfl⟩)
  remember _ := trivial

namespace Engine

open World

variable {α : Type} {engine : Engine} {own : Note → Prop}

lemma post_ascribes (ascribes : engine.Ascribes) (target : Id) (message : Message) (world : World) :
    Run.Ascribes own (engine.post target message) world := by
  refine .get (.bind (.modifyGet fun pumping reads =>
    World.post_ascribes pumping reads target message) fun result middle _ _ => ?_)
  cases result with
  | error error => exact .pure _ _
  | ok id =>
    dsimp only
    split
    · exact .bind (ascribes.spawn own target middle) fun _ _ _ _ => .pure _ _
    · exact .pure _ _

lemma runScript_ascribes (ascribes : engine.Ascribes) (script : Script α) (reads : script.Reads)
    (world : World) : Run.Ascribes own (engine.runScript script) world := by
  induction script generalizing world with
  | done result => exact .pure _ _
  | panic => exact .throw _ _
  | read id next ih => exact .get (ih _ (reads _) world)
  | execute op next ih => exact reads.elim
  | deliver target message next ih =>
    refine .bind ?_ fun result middle _ _ => ih result (reads result) middle
    refine .bind (post_ascribes ascribes target message.plain world) fun result middle _ _ => ?_
    cases result with
    | error error => exact .pure _ _
    | ok id => exact .bind (ascribes.pump own middle) fun _ _ _ _ => .pure _ _
  | pump next ih =>
    exact .bind (ascribes.pump own world) fun handled middle _ _ => ih handled (reads handled) middle

lemma callTool_ascribes (ascribes : engine.Ascribes) (name : String) (view : ActorView)
    (payload : Json) (world : World) :
    Run.Ascribes own (engine.callTool name view payload) world := by
  obtain ⟨same, codes⟩ := world.tools.beginCall_tools name payload
  intro pumping reads
  refine Run.Ascribes.bind (.modifyGet fun pumping reads => ?_) (fun admitted middle ran _ => ?_)
    pumping reads
  · exact .of_same pumping (reads.of_tools same) rfl rfl
  · obtain ⟨admits, -⟩ := EStateM.Result.ok.inj ran
    cases admitted with
    | error cause => exact .pure _ _
    | ok code =>
      obtain ⟨tool, found, rfl⟩ := codes code admits
      refine .bind (runScript_ascribes ascribes _ (reads name tool found view payload) middle)
        fun result last _ _ => .bind (.modify fun pumping reads => ?_) fun _ _ _ _ => .pure _ _
      exact .of_same pumping (reads.of_tools (last.tools.endCall_tools result)) rfl rfl

lemma invoke_ascribes (ascribes : engine.Ascribes) (target : Id) (payload : Json) (world : World) :
    Run.Ascribes own (engine.invoke target payload) world := by
  refine .get ?_
  split
  · exact .pure _ _
  · rename_i config _
    cases config.function with
    | none => exact .pure _ _
    | some tool => exact .bind (callTool_ascribes ascribes _ _ _ _) fun _ _ _ _ => .pure _ _

/-- A pass whose requests are owned writes on its own account. -/
theorem runPass_ascribes (ascribes : engine.Ascribes) (actor : Id) (pass : Pass α)
    (owned : pass.Only (Request.Owned own)) (world : World) :
    Run.Ascribes own (engine.runPass actor pass) world := by
  induction pass generalizing world with
  | done result => exact .pure _ _
  | read id next ih => exact .get (ih _ (owned.2 _) world)
  | execute op next ih =>
    exact .bind (.modifyGet fun pumping reads => World.write_ascribes pumping reads owned.1)
      fun result middle _ _ => ih result (owned.2 _) middle
  | callTool name view payload next ih =>
    exact .bind (callTool_ascribes ascribes name view payload world) fun result middle _ _ =>
      ih result (owned.2 _) middle
  | deliver target message next ih =>
    exact .bind (post_ascribes ascribes target message world) fun result middle _ _ =>
      ih _ (owned.2 _) middle
  | interfaceOf target next ih => exact .get (ih _ (owned.2 _) world)
  | registerAsk asker target event next ih =>
    refine .bind (.modifyGet fun pumping reads => ?_) fun result middle _ _ =>
      ih result (owned.2 _) middle
    exact .of_notes [_] pumping reads rfl (fun _ old found => ⟨old, found, rfl, rfl⟩) (by simp)
  | invoke target payload next ih =>
    exact .bind (invoke_ascribes ascribes target payload world) fun result middle _ _ =>
      ih result (owned.2 _) middle
  | remember memory next ih =>
    exact .bind (.modify fun pumping reads =>
      updateRunning_ascribes pumping reads actor (fun _ => rfl) fun _ => rfl)
      fun _ middle _ _ => ih owned.2 middle

lemma spawnWith_ascribes (ascribes : engine.Ascribes) (id : Id) (world : World) :
    Run.Ascribes own (engine.spawnWith id) world := by
  intro pumping reads
  -- the start pass writes on account of the one that is started
  have starts : ∀ (config : ActorConfig) (behavior : Behavior),
      (world.enlist id config behavior).Ascribes (behavior.Starts config)
        ((world.enlist id config behavior).turnTo id .starting) ∧
      Run.Ascribes (behavior.Starts config)
        (engine.runPass id (behavior.start ⟨id, config⟩ behavior.initialMemory))
        ((world.enlist id config behavior).turnTo id .starting) := by
    intro config behavior
    have permits : behavior.Permits ⟨id, config⟩ Machine.initialEvent
        (Request.Owned (behavior.Starts config)) := Behavior.permits_owned fun _ _ writes => writes
    exact ⟨(world.enlist id config behavior).turnTo_ascribes pumping reads id .starting,
      runPass_ascribes ascribes id _ (Behavior.start_only permits _) _⟩
  have startup := engine.spawnWith_startup id world
  rw [Run.Keeps]
  generalize engine.spawnWith id world = result at startup ⊢
  cases startup with
  | running | unrecorded | unloaded => exact .refl pumping reads
  | @passed config behavior last stopped _ _ passed =>
    obtain ⟨begins, passes⟩ := starts config behavior
    have passes := begins.trans ((passes begins.pumping begins.tools).ok passed)
    have ends := passes.trans (last.turnTo_ascribes passes.pumping passes.tools id .idle)
    exact (ends.trans (schedule_ascribes ends.pumping ends.tools id)).of_start stopped
  | @halted config behavior halt last stopped _ _ halted =>
    obtain ⟨begins, passes⟩ := starts config behavior
    have passes := begins.trans ((passes begins.pumping begins.tools).error halted)
    exact (passes.trans (last.turnTo_ascribes passes.pumping passes.tools id .idle)).of_start stopped

end Engine

/-- However deep calls nest in a pump, all that is written by starts was ordered by those that were
started. -/
theorem engine_ascribes (depth : Nat) : (engine depth).Ascribes := by
  induction depth with
  | zero => exact ⟨fun _ _ _ => .throw _ _, fun _ _ => .throw _ _⟩
  | succ depth ih =>
    refine ⟨fun own id world => ?_, fun own world pumping reads => ?_⟩
    · change Run.Ascribes own (Engine.spawnAt (depth + 1) id) world
      rw [Engine.spawnAt]
      exact Engine.spawnWith_ascribes ih id world
    · rw [Run.Keeps, engine_pump_of_pumping depth pumping]
      exact .refl pumping reads

/-! ## One entry -/

/-- What is written on behalf of an entry: what it asks for itself, or what an actor writes that
receives it as an event. -/
def Fate.Writes (fate : Fate) (running : Running) (object : Id) (op : StoreOp) : Prop :=
  match fate with
  | .mutation payload => StoreOp.ofJson? payload = some op
  | .received event => running.behavior.Writes running.config event object op
  | .rejected _ | .late => False

/-- What an actor writes and marks when it handles an entry. -/
def Due.Owns (due : Due) (fate : Fate) : Note → Prop
  | .wrote object op => fate.Writes due.running object op
  | .marked message => message = due.message
  | _ => False

namespace Engine

open World

variable {engine : Engine} {actor : Id} {due : Due} {world : World}

lemma applyMutation_ascribes {own : Note → Prop} (ascribes : engine.Ascribes) {entry : Entry}
    {payload : Json}
    (owned : ∀ op object, StoreOp.ofJson? payload = some op → own (.wrote object op)) :
    Run.Ascribes own (engine.applyMutation actor entry payload) world := by
  unfold applyMutation
  extract_lets report
  have reports : ∀ outcome middle, Run.Ascribes own (report outcome) middle := by
    intro outcome middle
    unfold report
    split
    · exact .bind (post_ascribes ascribes _ _ middle) fun _ _ _ _ => .pure _ _
    · exact .pure _ _
  split
  · exact .bind (.pure _ world) fun _ middle _ _ => reports _ middle
  · rename_i op order
    exact .bind (.modifyGet fun pumping reads =>
      World.write_ascribes pumping reads fun object _ => owned op object order)
      fun outcome middle _ _ => reports _ middle

/-- What is written in dealing with an entry is written on its behalf, or by starts. -/
lemma deal_ascribes (ascribes : engine.Ascribes) (actor : Id) (due : Due) (fate : Fate)
    (world : World) : Run.Ascribes (due.Owns fate) (engine.deal actor due fate) world := by
  cases fate with
  | rejected errors => exact .pure _ _
  | late => exact .pure _ _
  | mutation payload =>
    exact .bind (applyMutation_ascribes ascribes fun op object order => order)
      fun _ _ _ _ => .pure _ _
  | received event =>
    refine .bind (.modify fun pumping reads => ?_) fun _ middle _ _ => ?_
    · rcases acceptReply_cases world actor due.message due.entry with same | ⟨_, _, -, -, -, -, done⟩
      · rw [same]
        exact .refl pumping reads
      · rw [done]
        exact .of_notes [_] pumping reads rfl (fun _ old found => ⟨old, found, rfl, rfl⟩) (by simp)
    · refine .bind (runPass_ascribes ascribes actor _ (Behavior.send_only ?_ _) middle)
        fun _ _ _ _ => .pure _ _
      exact Behavior.permits_owned fun _ _ writes => writes

lemma busy_ascribes {own : Note → Prop} (pumping : world.pumping = true)
    (reads : world.tools.Reads) : world.Ascribes own (due.busy actor world) := by
  have picks : world.Ascribes own (world.pick actor due.running due.listed).2 := by
    refine .of_notes _ ?_ ?_ (pick_journal _ _ _ _) (fun id old found => ?_) fun note mem kind => ?_
    · rw [pick_frame, pumping]
    · rw [pick_frame]
      exact reads
    · rw [find?_pick, found]
      split
      · exact ⟨_, rfl, rfl, rfl⟩
      · exact ⟨_, rfl, rfl, rfl⟩
    · rcases List.mem_append.1 mem with taken | passed
      · obtain ⟨_, -, rfl⟩ := Option.map_eq_some_iff.1 (Option.mem_toList.1 taken)
        simp at kind
      · obtain ⟨_, -, rfl⟩ := List.mem_map.1 (List.mem_reverse.1 passed)
        simp at kind
  exact picks.trans (World.turnTo_ascribes _ picks.pumping picks.tools actor _)

/-- What is written in a turn is written on behalf of its entry, or by starts; and the entry is
marked. -/
theorem handleNext_ascribes (ascribes : engine.Ascribes) (waits : world.due? actor = some due) :
    Run.Ascribes (due.Owns (world.fate actor due)) (engine.handleNext actor) world := by
  intro pumping reads
  have busy : world.Ascribes (due.Owns (world.fate actor due)) (due.busy actor world) :=
    busy_ascribes pumping reads
  have deals := deal_ascribes ascribes actor due (world.fate actor due) (due.busy actor world)
    busy.pumping busy.tools
  rw [Run.Keeps] at deals ⊢
  rw [handleNext_eq_deal engine waits]
  cases dealt : engine.deal actor due (world.fate actor due) (due.busy actor world) with
  | ok rerender last =>
    rw [dealt] at deals
    have marks := deals.trans (mark_ascribes deals.pumping deals.tools rfl)
    have turned := marks.trans (World.turnTo_ascribes _ marks.pumping marks.tools actor .idle)
    refine busy.trans ?_
    unfold afterTurn
    split
    · exact turned.trans (schedule_ascribes turned.pumping turned.tools actor)
    · exact turned
  | error halt last =>
    rw [dealt] at deals
    exact busy.trans (deals.trans (last.turnTo_ascribes deals.pumping deals.tools actor .idle))

/-- All that a turn changes is among the changes that are noted. -/
theorem handleNext_changes (bySteps : engine.BySteps) (waits : world.due? actor = some due) :
    Run.Keeps Changes Changes (engine.handleNext actor) world := by
  obtain ⟨found, -, -, picked⟩ := due?_eq_some.1 waits
  have handles : (due.busy actor world).Handles { due.running with
      cursor := due.position + 1, activity := .handling due.listed.length } actor due.message
      due.entry := pick_handles due.listed.length found picked
  have entry : World.BySteps (engine.handleEntry actor due.running due.message due.entry)
    (due.busy actor world) := handleEntry_bySteps bySteps handles rfl
  have begins : Changes world (due.busy actor world) :=
    .tail (.single (.pick world actor due.running due.listed)) (.turnTo _ _ _)
  rw [Run.Keeps, handleNext_of_due engine waits]
  cases ended : engine.handleEntry actor due.running due.message due.entry (due.busy actor world) with
  | ok rerender last =>
    have turned : Changes world (last.turnTo actor .idle) :=
      .tail (begins.trans (entry.ok ended).1.stepsOrBreaks.changes) (.turnTo _ _ _)
    dsimp only
    split
    · exact turned.tail (.schedule _ _)
    · exact turned
  | error halt last =>
    exact .tail (begins.trans (entry.error ended).1.changes) (.turnTo _ _ _)

end Engine

/-! ## What a turn may change -/

namespace World

variable {before after : World} {actor : Id} {due : Due} {object : Id}

/-- An identifier is in use: it is that of an object, or of the context of a running actor. -/
def Uses (world : World) (object : Id) : Prop :=
  (world.store.read object).isSome ∨
    ∃ id known, world.running.find? id = some known ∧ known.config.context = object

/-- A store operation was carried out while an entry was handled. -/
inductive Ordered (before : World) (actor : Id) (due : Due) (after : World) (op : StoreOp) : Prop
  /-- The entry asked for it. -/
  | mutation {payload : Json} : before.fate actor due = .mutation payload →
    StoreOp.ofJson? payload = some op → Ordered before actor due after op
  /-- An action of the behavior that received the entry came to it. -/
  | action {event : Event} : before.fate actor due = .received event →
    due.running.behavior.Orders event op → Ordered before actor due after op
  /-- An action of an actor that was started came to it. -/
  | start {id : Id} {new : Running} : before.running.contains id = false →
    after.running.find? id = some new → new.behavior.Orders Machine.initialEvent op →
    Ordered before actor due after op

/-- Why an object may have changed that was there when an actor began to handle an entry. -/
inductive Accounted (before : World) (actor : Id) (due : Due) (after : World) (object : Id) : Prop
  /-- It is the context of the actor. -/
  | context : object = due.running.config.context → Accounted before actor due after object
  /-- It is the entry. -/
  | entry : object = due.message → Accounted before actor due after object
  /-- A message was put into it, as the inbox of the target to which it was sent. -/
  | inbox (target : Id) : before.Delivers after target object →
    Accounted before actor due after object
  /-- A store operation wrote it that names it. -/
  | named (op : StoreOp) : op.object? = some object → before.Newly after (.wrote object op) →
    before.Ordered actor due after op → Accounted before actor due after object
  /-- It is the context of an actor that was started. -/
  | started (id : Id) (new : Running) : before.running.contains id = false →
    after.running.find? id = some new → new.config.context = object →
    Accounted before actor due after object

/-- An object is the context of one actor and nothing else: it is the context of no other actor,
the inbox of none, and no message. -/
structure Alone (world : World) (owner object : Id) : Prop where
  /-- It is the context of no other running actor, -/
  context : ∀ id known, world.running.find? id = some known → known.config.context = object →
    id = owner
  /-- and the inbox of none; -/
  inbox : ∀ id known, world.running.find? id = some known → known.config.inbox ≠ object
  /-- no record of an actor that does not run has it as context or inbox, -/
  records : ∀ id, world.running.contains id = false → ¬ world.store.LeadsTo id object
  /-- and no inbox lists it as a message. -/
  messages : ∀ id known, world.running.find? id = some known →
    object ∉ Inbox.listed world.store known.config.inbox

instance (world : World) (object : Id) : Decidable (world.Uses object) :=
  decidable_of_iff ((world.store.read object).isSome ∨
      ∃ entry ∈ world.running.entries, entry.2.config.context = object) <| or_congr_right
    ⟨fun ⟨entry, mem, same⟩ => ⟨entry.1, entry.2, Table.mem_entries.1 mem, same⟩,
      fun ⟨id, known, found, same⟩ => ⟨(id, known), Table.mem_entries.2 found, same⟩⟩

instance (world : World) (owner object : Id) : Decidable (world.Alone owner object) :=
  decidable_of_iff ((∀ entry ∈ world.running.entries,
      (entry.2.config.context = object → entry.1 = owner) ∧ entry.2.config.inbox ≠ object ∧
        object ∉ Inbox.listed world.store entry.2.config.inbox) ∧
      ∀ entry ∈ world.store.objects.entries, world.running.contains entry.1 = false →
        ¬ ActorConfig.LeadsTo entry.2 object)
    ⟨fun ⟨all, records⟩ =>
      ⟨fun _ _ found => (all _ (Table.mem_entries.2 found)).1,
        fun _ _ found => (all _ (Table.mem_entries.2 found)).2.1,
        fun _ stopped ⟨_, found, leads⟩ => records _ (Table.mem_entries.2 found) stopped leads,
        fun _ _ found => (all _ (Table.mem_entries.2 found)).2.2⟩,
      fun alone => ⟨fun _ mem =>
          ⟨alone.context _ _ (Table.mem_entries.1 mem), alone.inbox _ _ (Table.mem_entries.1 mem),
            alone.messages _ _ (Table.mem_entries.1 mem)⟩,
        fun _ mem stopped leads => alone.records _ stopped ⟨_, Table.mem_entries.1 mem, leads⟩⟩⟩

/-- An object was written, and it was used as the record of an actor that did not run and led to
another object: a message was sent to it, or an actor was started from it.  Which of the two came
first is not said here; if no record led to the other object before, the write did. -/
def Redirected (before after : World) (object : Id) : Prop :=
  ∃ id op, before.running.contains id = false ∧ before.Newly after (.wrote id op) ∧
    (before.Delivers after id object ∨
      ∃ new, after.running.find? id = some new ∧ new.config.context = object)

/-- What may change while an actor handles an entry. -/
structure Isolates (before : World) (actor : Id) (due : Due) (after : World) : Prop where
  /-- Of the objects that were there, those that changed are accounted for. -/
  accounted : ∀ object, (before.store.read object).isSome →
    after.store.read object ≠ before.store.read object → before.Accounted actor due after object
  /-- The context of another running actor changed only if a store operation names it, or a record
  led there that was written meanwhile. -/
  others : ∀ other known, other ≠ actor → before.running.find? other = some known →
    before.Alone other known.config.context →
    after.store.read known.config.context ≠ before.store.read known.config.context →
    (∃ op, op.object? = some known.config.context ∧
      before.Newly after (.wrote known.config.context op) ∧ before.Ordered actor due after op) ∨
    before.Redirected after known.config.context

/-- Who wrote an object in a turn. -/
lemma Ascribes.cases (ascribes : before.Ascribes (due.Owns (before.fate actor due)) after)
    {op : StoreOp} (wrote : before.Newly after (.wrote object op)) :
    before.Ordered actor due after op ∨ object = due.running.config.context ∨
      ∃ id new, before.running.contains id = false ∧ after.running.find? id = some new ∧
        new.config.context = object := by
  rcases ascribes.wrote object op wrote with own | ⟨id, new, stopped, found, orders | ⟨same, -⟩⟩
  · cases fate : before.fate actor due with
    | rejected errors =>
      rw [fate] at own
      exact own.elim
    | late =>
      rw [fate] at own
      exact own.elim
    | mutation payload =>
      rw [fate] at own
      exact .inl (.mutation fate own)
    | received event =>
      rw [fate] at own
      rcases own with orders | ⟨same, -⟩
      · exact .inl (.action fate orders)
      · exact .inr (.inl same)
  · exact .inl (.start stopped found orders)
  · exact .inr (.inr ⟨id, new, stopped, found, same.symm⟩)

lemma Delivers.posted {target : Id} (delivers : before.Delivers after target object) :
    ∃ message, before.Newly after (.posted message object) := by
  obtain ⟨id, message, later, earlier, journal⟩ := delivers
  exact ⟨id, later ++ .posted id object :: .sent target message :: earlier, by simp [journal],
    by simp⟩

/-- What is noted of a turn accounts for it. -/
theorem Changes.isolated (changes : Changes before after)
    (ascribes : before.Ascribes (due.Owns (before.fate actor due)) after)
    (waits : before.due? actor = some due)
    (new : ∀ object, before.store.supply.Mints after.store.supply object → ¬ before.Uses object) :
    before.Isolates actor due after where
  accounted object there changed := by
    have old : ¬ before.store.supply.Mints after.store.supply object :=
      fun mints => new object mints (.inl there)
    cases (changes.records.changed object changed).resolve_left old with
    | wrote op wrote =>
      have named := (changes.records.named object op wrote).resolve_right old
      rcases ascribes.cases wrote with ordered | own | ⟨id, known, stopped, found, same⟩
      · exact .named op named wrote ordered
      · exact .context own
      · exact .started id known stopped found same
    | delivered target delivers => exact .inbox target delivers
    | marked marked => exact .entry (ascribes.marked object marked)
  others other known ne found alone changed := by
    have old : ¬ before.store.supply.Mints after.store.supply known.config.context :=
      fun mints => new _ mints (.inr ⟨other, known, found, rfl⟩)
    have routes := changes.routes known.config.context
    cases (changes.records.changed _ changed).resolve_left old with
    | wrote op wrote =>
      rcases ascribes.cases wrote with ordered | own | ⟨id, started, stopped, there, same⟩
      · exact .inl ⟨op, (changes.records.named _ op wrote).resolve_right old, wrote, ordered⟩
      · have current := (due?_eq_some.1 waits).1
        exact absurd (alone.context actor _ current own.symm).symm ne
      · obtain ⟨-, leads | ⟨order, written⟩⟩ := routes.started id started stopped there (.inr same)
        · exact absurd leads (alone.records id stopped)
        · exact .inr ⟨id, order, stopped, written, .inr ⟨started, there, same⟩⟩
    | delivered _ delivers =>
      obtain ⟨message, posted⟩ := delivers.posted
      obtain ⟨target, delivers, ⟨live, there, same⟩ | ⟨stopped, leads | ⟨order, written⟩⟩⟩ :=
        routes.posted message posted
      · exact absurd same (alone.inbox target live there)
      · exact absurd leads (alone.records target stopped)
      · exact .inr ⟨target, order, stopped, written, .inl delivers⟩
    | marked marked =>
      have entry : known.config.context = due.message := ascribes.marked _ marked
      refine absurd ?_ (alone.messages actor _ (due?_eq_some.1 waits).1)
      rw [entry]
      exact List.mem_of_getElem? (stored_of_due waits).1

end World

/-- **Actors are isolated.**  Whatever an actor does while it handles an entry, besides its own
context, the entry and the inboxes to which messages are sent, only objects change that store
operations name, and contexts of actors that are started.  The context of another running actor
that nobody else has as context, inbox or message is none of these, unless a store operation names
it, or a record that was written meanwhile leads there. -/
theorem Engine.isolates (depth : Nat) {before after : World} {actor : Id} {due : Due}
    (serving : before.pumping = true) (reads : before.tools.Reads)
    (waits : before.due? actor = some due)
    (ended : (∃ rerender, (engine depth).handleNext actor before = .ok rerender after) ∨
      ∃ halt, (engine depth).handleNext actor before = .error halt after)
    (new : ∀ object, before.store.supply.Mints after.store.supply object → ¬ before.Uses object) :
    before.Isolates actor due after := by
  have ascribes := handleNext_ascribes (engine_ascribes depth) waits serving reads
  have changes := handleNext_changes (engine_bySteps depth) waits
  rcases ended with ⟨rerender, ran⟩ | ⟨halt, ran⟩
  · exact (changes.ok ran).isolated (ascribes.ok ran) waits new
  · exact (changes.error ran).isolated (ascribes.error ran) waits new

namespace Sample

/-- An actor that runs beside the one that handles an entry. -/
def bystander : Id := .ofNat 8

/-- An action that sends a message, as it stands in a behavior. -/
def tells (target : Nat) : Json :=
  .record [("tell", .record
    [("target", .id (.ofNat target)), ("type", .str "NOTE"), ("payload", .empty)])]

/-- A runtime over a saved store that knows three actors.  One of them is told to send a message to
a machine, and then one to the context of the machine.  When it is started, the machine writes into
its context that the context of the third actor is its inbox. -/
def afresh : World :=
  let image := Table.ofList
    [(.ofNat 1, .obj [("entries", .arr [.id (.ofNat 4)])]), (.ofNat 2, .empty),
      (actor, (ActorConfig.toJson ⟨["GO"], .ofNat 1, .ofNat 2,
        .record [("kind", .str "process"), ("handlers", .record
          [("GO", .arr [tells 13, tells 12])])], none, ∅, Table.ofList [("GO", .bool true)]⟩)),
      (.ofNat 4, (Entry.pending actor { type := "GO", payload := .empty }).toJson),
      (.ofNat 6, .obj [("entries", .arr [])]), (.ofNat 7, .empty),
      (bystander, (ActorConfig.toJson ⟨[], .ofNat 6, .ofNat 7,
        .record [("kind", .str "process")], none, ∅, ∅⟩)),
      (.ofNat 11, .obj [("entries", .arr [])]), (.ofNat 12, .empty),
      (.ofNat 13, (ActorConfig.toJson ⟨[], .ofNat 11, .ofNat 12,
        .record [("kind", .str "machine"), ("initial", .str "on"), ("states", .record
          [("on", .record [("entry", .record [("ctx", .record
            [("inbox", .id (.ofNat 7))])])])])], none, ∅, ∅⟩))]
  World.new {} (Store.ofImage ⟨.ofNat, 20⟩ ⟨image, ∅⟩) ⟨.ofNat, 0⟩ ⟨0, 1000⟩

/-- Whether an entry is due, and nothing but the context of the bystander has its identifier. -/
def beside (world : World) : Bool :=
  (world.due? actor).isSome && (world.running.find? bystander).any fun known =>
    known.config.context == .ofNat 7 && decide (world.Alone bystander (.ofNat 7))

/-- Whether the context of the bystander has received an entry, though nobody wrote it, and new
identifiers are new. -/
def strayed (before after : World) : Bool :=
  let length (world : World) := ((world.store.read (.ofNat 7)).map fun context =>
    (context.itemsIn Inbox.entriesField).length)
  length before != length after &&
    (after.journal.take (after.journal.length - before.journal.length)).all (fun
      | .wrote object _ => object != .ofNat 7
      | _ => true) &&
    (List.range after.store.supply.made).all fun n =>
      decide (before.store.supply.made ≤ n → ¬ before.Uses (after.store.supply.mint n))

/-- Whether a message strays in the next turn. -/
def strays (world : World) : Bool :=
  match world.ready.pop? with
  | some (next, ready) =>
    next == actor && world.tools.tools.entries.isEmpty && beside { world with ready } &&
      ((engine 2).handleNext actor).returns (fun _ after => strayed { world with ready } after)
        { world with ready }
  | none => false

/-- The two actors that are to run are started, and then queued actors are served: a message strays
in the first turn. -/
lemma exists_straying_turn : ∃ (before : World) (due : Due) (rerender : Option Bool)
    (after : World) (known : Running),
    (∃ world ready, Quiet afresh world ∧ world.ready.pop? = some (actor, ready) ∧
      before = { world with ready }) ∧
    before.pumping = true ∧ before.tools.Reads ∧ before.due? actor = some due ∧
    (engine 2).handleNext actor before = .ok rerender after ∧
    (∀ object, before.store.supply.Mints after.store.supply object → ¬ before.Uses object) ∧
    before.running.find? bystander = some known ∧ before.Alone bystander known.config.context ∧
    after.store.read known.config.context ≠ before.store.read known.config.context ∧
    ∀ op, ¬ before.Newly after (.wrote known.config.context op) := by
  obtain ⟨⟨⟩, first, started, tested⟩ := Run.exists_of_returns ((Command.start actor).run 1)
    (fun _ first => ((Command.start bystander).run 1).returns
      (fun _ last => strays { last with pumping := true }) first) afresh (by decide +kernel)
  obtain ⟨⟨⟩, last, started', strays⟩ := Run.exists_of_returns _ _ _ tested
  have quiet := Quiet.pumping true ((Quiet.first.returned 1 _ started).returned 1 _ started')
  unfold Sample.strays at strays
  split at strays
  case h_2 => cases strays
  rename_i next ready popped
  simp only [Bool.and_eq_true, beq_iff_eq] at strays
  obtain ⟨⟨⟨rfl, toolless⟩, beside⟩, returned⟩ := strays
  obtain ⟨rerender, after, ran, strayed⟩ := Run.exists_of_returns _ _ _ returned
  simp only [Sample.beside, Bool.and_eq_true, Option.any_eq_true, beq_iff_eq,
    decide_eq_true_eq] at beside
  obtain ⟨waits, known, found, context, alone⟩ := beside
  obtain ⟨due, waits⟩ := Option.isSome_iff_exists.1 waits
  simp only [Sample.strayed, Bool.and_eq_true, bne_iff_ne, List.all_eq_true, List.mem_range,
    decide_eq_true_eq] at strayed
  obtain ⟨⟨changed, unwritten⟩, new⟩ := strayed
  refine ⟨_, due, rerender, after, known, ⟨_, ready, quiet, popped, rfl⟩, rfl,
    fun name tool there => ?_, waits, ran, fun object mints => ?_, found, context ▸ alone,
    fun same => ?_, fun op wrote => ?_⟩
  · rw [Table.find?, List.isEmpty_iff.1 toolless] at there
    cases there
  · obtain ⟨n, le, lt, rfl⟩ := mints
    exact new n lt le
  · rw [context] at same
    exact changed (by rw [same])
  · obtain ⟨notes, journal, mem⟩ := wrote
    rw [journal, List.length_append, Nat.add_sub_cancel, List.take_left] at unwritten
    have other := unwritten _ mem
    rw [context] at other
    simp at other

end Sample

/-- A turn in which all that changes is accounted for, and in which a message strays into the
context of another actor, by way of an object that was written meanwhile. -/
theorem Engine.isolates_straying : ∃ (before : World) (due : Due) (after : World) (known : Running),
    before.due? Sample.actor = some due ∧
    before.running.find? Sample.bystander = some known ∧
    before.Isolates Sample.actor due after ∧
    before.Redirected after known.config.context := by
  obtain ⟨before, due, rerender, after, known, -, serving, reads, waits, ran, new, found, alone,
    changed, unwritten⟩ := Sample.exists_straying_turn
  have isolates := Engine.isolates 2 serving reads waits (.inl ⟨rerender, ran⟩) new
  refine ⟨before, due, after, known, waits, found, isolates, ?_⟩
  rcases isolates.others _ known (by decide) found alone changed with ⟨op, -, wrote, -⟩ | redirected
  · exact absurd wrote (unwritten op)
  · exact redirected

/-- A context that belongs to its actor alone may change in a turn of another actor, though no store
operation that was carried out names it, and tools do not write. -/
theorem Engine.contexts_are_no_shelter : ∃ (before : World) (due : Due) (rerender : Option Bool)
    (after : World) (known : Running),
    (∃ world ready, Quiet Sample.afresh world ∧ world.ready.pop? = some (Sample.actor, ready) ∧
      before = { world with ready }) ∧
    before.pumping = true ∧ before.tools.Reads ∧ before.due? Sample.actor = some due ∧
    (engine 2).handleNext Sample.actor before = .ok rerender after ∧
    Sample.bystander ≠ Sample.actor ∧ before.running.find? Sample.bystander = some known ∧
    before.Alone Sample.bystander known.config.context ∧
    after.store.read known.config.context ≠ before.store.read known.config.context ∧
    ∀ op, ¬ before.Newly after (.wrote known.config.context op) := by
  obtain ⟨before, due, rerender, after, known, quiet, serving, reads, waits, ran, -, found, alone,
    changed, unwritten⟩ := Sample.exists_straying_turn
  exact ⟨before, due, rerender, after, known, quiet, serving, reads, waits, ran, by decide, found,
    alone, changed, unwritten⟩

end Troupe
