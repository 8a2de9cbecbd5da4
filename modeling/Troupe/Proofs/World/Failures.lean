import Mathlib.Data.List.Count
import Mathlib.Data.List.Perm.Subperm
import Troupe.Proofs.World.Accounts
import Troupe.Proofs.World.Screening
import Troupe.Proofs.World.Tenure

/-!
# Failures do not feed themselves

An actor that fails at something is told so by an ERROR, and may fail at that as well.  That is
not told to anybody, so it ends there.  What an actor reports in one turn is bounded, and it is paid
for by the entry that it takes, as what it reports when it starts is by the start.  From this comes
a bound for any run, in which actors may start each other, run tools and pump as they like.

If ERROR is the event type of mutations, the bound does not hold: a mutation that is refused is
reported whatever its type.

## Main results

* `Engine.handleNext_told`, `Engine.spawnWith_told`: what is reported in a turn and at a start;
* `engine_accounts`: however deep calls nest, all that is reported is accounted for;
* `ReportingSession.curbs`: what is reported in a run;
* `World.quells`: all of it.
-/

namespace Troupe

open Journal World

/-! ## Turns -/

/-- What is told of a store operation that was asked for and refused. -/
def Due.refusal (due : Due) (actor : Id) (error : ActionError) : Message where
  type := errorEvent
  payload := error.payload
  source := some actor
  correlation := due.entry.correlation
  automatic := true

/-- What an actor may tell of failures when it deals with an entry. -/
inductive Due.Tells (due : Due) (actor : Id) : Fate → List (Id × Message) → Prop
  /-- It tells nothing if nothing is done for the entry. -/
  | idle {fate : Fate} : fate.Idle → Tells due actor fate []
  /-- Of a store operation it may tell nothing, -/
  | applied (payload : Json) : Tells due actor (.mutation payload) []
  /-- or, once, the one who asked for it that it is refused. -/
  | refused (payload : Json) (error : ActionError) {source : Id} : due.entry.source = some source →
    Tells due actor (.mutation payload) [(source, due.refusal actor error)]
  /-- The behavior receives an event, and reports what it reports in a pass. -/
  | received {event : Event} {log : List Exchange} {dispatch : Dispatch} {after : Memory} :
    (due.running.behavior.send ⟨actor, due.running.config⟩ due.running.memory event).Yields
      due.running.memory log dispatch after →
    Occasion.Passes ⟨⟨actor, due.running.config⟩, due.running.behavior.named, event⟩ log →
    Tells due actor (.received event) (Exchange.reports log)

/-- What an actor tells of a mutation is all that is to be accounted for. -/
def Due.Answers (due : Due) (actor : Id) (payload : Json) (who : Option Id)
    (before after : World) : Prop :=
  ∃ told, due.Tells actor (.mutation payload) told ∧ before.Accounts who (sentBy who told) after

namespace Due.Tells

variable {due : Due} {actor : Id} {fate : Fate} {told : List (Id × Message)}

/-- If no ERROR is a mutation, what is told is bounded. -/
lemma modest {world : World} (apart : world.config.mutationEvent ≠ errorEvent)
    (tells : due.Tells actor (world.fate actor due) told) :
    Modest actor due.entry.type due.entry.source told := by
  generalize fated : world.fate actor due = fate at tells
  cases tells with
  | idle => exact .nil
  | applied payload => exact .nil
  | @refused payload error source sender =>
    obtain ⟨-, type⟩ := World.fate_eq_mutation fated
    refine ⟨fun same => absurd (type.symm.trans same) apart, fun target other => ?_, ?_,
      Nat.succ_le_succ (Nat.zero_le _), fun report mem => by rw [List.mem_singleton.1 mem]; rfl⟩
    · rw [sender]
      by_cases same : source = target <;> simp [same]
    · exact Nat.le_trans List.count_le_length (Nat.succ_le_succ (Nat.zero_le _))
  | received yields passes =>
    obtain ⟨payload, -, -, -, rfl⟩ := World.fate_eq_received fated
    exact passes.modest

lemma senders (tells : due.Tells actor fate told) :
    ∀ report ∈ told, report.2.source = some actor := by
  cases tells with
  | idle | applied => exact fun _ mem => nomatch mem
  | refused =>
    intro report mem
    rw [List.mem_singleton.1 mem]
    rfl
  | received yields passes => exact passes.senders

/-- All of it is sent by the actor. -/
lemma sentBy (tells : due.Tells actor fate told) (who : Option Id) :
    Troupe.sentBy who told = if who = some actor then told else [] :=
  sentBy_of_senders tells.senders who

end Due.Tells

namespace Engine

variable {α β : Type} {engine : Engine} {who : Option Id} {world : World} {actor : Id} {due : Due}

/-- What follows a computation reports nothing. -/
lemma accounts_bind {first : Run α} {next : α → Run β} {told : List (Id × Message)}
    (begins : world.AccountsFor who told (first world))
    (ends : ∀ result middle, first world = .ok result middle →
      Run.Keeps (World.Accounts who []) (World.Accounts who []) (next result) middle) :
    world.AccountsFor who told ((first >>= next) world) := by
  cases ran : first world with
  | error halt middle =>
    rw [Run.bind_of_error ran]
    rwa [ran] at begins
  | ok result middle =>
    have rest := ends result middle ran
    rw [ran] at begins
    rw [Run.bind_of_ok ran, ← List.append_nil told]
    refine World.Accounts.followed begins ?_
    rw [Run.Keeps] at rest
    cases ended : next result middle <;> rw [ended] at rest
    · exact rest
    · exact ⟨[], List.prefix_refl _, rest⟩

/-- The one who asked for a store operation is told if it is refused. -/
lemma applyMutation_accounts (accounts : engine.Accounts who) (actor : Id) (due : Due)
    (payload : Json) (world : World) :
    Run.Keeps (due.Answers actor payload who) (due.Answers actor payload who)
      (engine.applyMutation actor due.entry payload) world := by
  unfold applyMutation
  extract_lets report
  have reported : ∀ outcome (middle : World), world.Accounts who [] middle →
      world.Reaches (due.Answers actor payload who) (due.Answers actor payload who)
        (report outcome middle) := by
    intro outcome middle begun
    cases outcome with
    | ok value => exact ⟨[], .applied payload, begun⟩
    | error error =>
      unfold report
      cases sender : due.entry.source with
      | none => exact ⟨[], .applied payload, begun⟩
      | some source =>
        have tells : due.Tells actor (.mutation payload) [(source, due.refusal actor error)] :=
          .refused payload error sender
        have posted := accounts.post source (due.refusal actor error) middle
        change world.Reaches _ _
          ((engine.post source (due.refusal actor error) >>= fun _ => (pure () : Run Unit)) middle)
        cases ran : engine.post source (due.refusal actor error) middle with
        | ok answer after =>
          rw [Run.bind_of_ok ran]
          exact ⟨_, tells, begun.trans (posted.ok ran)⟩
        | error halt after =>
          rw [Run.bind_of_error ran]
          exact ⟨_, tells, begun.trans (posted.error ran)⟩
  split
  · exact reported _ world (.refl world)
  · exact reported _ _ (world.write_accounts _)

/-- What an actor tells when it deals with an entry is all that is to be accounted for. -/
theorem deal_accounts (accounts : engine.Accounts who) (actor : Id) (due : Due) (fate : Fate)
    (world : World) : ∃ told, due.Tells actor fate told ∧
      world.AccountsFor who (sentBy who told) (engine.deal actor due fate world) := by
  have frame : Frame (World.Accounts who []) (World.Accounts who []) := accounts_custom.toFrame
  cases fate with
  | rejected errors => exact ⟨[], .idle trivial, World.Accounts.refl world⟩
  | late => exact ⟨[], .idle trivial, World.Accounts.refl world⟩
  | mutation payload =>
    have answered := applyMutation_accounts accounts actor due payload world
    rw [deal]
    cases ran : engine.applyMutation actor due.entry payload world with
    | ok done after =>
      obtain ⟨told, tells, accounts⟩ := answered.ok ran
      refine ⟨told, tells, ?_⟩
      rw [Run.bind_of_ok ran]
      exact accounts
    | error halt after =>
      obtain ⟨told, tells, accounts⟩ := answered.error ran
      refine ⟨told, tells, ?_⟩
      rw [Run.bind_of_error ran]
      exact ⟨_, List.prefix_refl _, accounts⟩
  | received event =>
    let accepted := (world.acceptReply actor due.message due.entry).2
    obtain ⟨log, dispatch, after, yields, ran⟩ := runPass_accounts accounts actor
      (due.running.behavior.send ⟨actor, due.running.config⟩ due.running.memory event)
      due.running.memory accepted
    refine ⟨_, .received yields (Behavior.send_passes yields), ?_⟩
    have replied : world.Accounts who [] accepted :=
      world.acceptReply_accounts actor due.message due.entry
    exact replied.followed (accounts_bind ran fun _ _ _ => .pure frame _ _)

end Engine

namespace World

variable {who : Option Id} {list first last : List (Id × Message)}
variable {world before middle after : World} {actor : Id} {due : Due}

/-- What someone has reported between two states. -/
def Told (who : Option Id) (list : List (Id × Message)) (before after : World) : Prop :=
  after.config = before.config ∧
    ∃ notes, after.journal = notes ++ before.journal ∧ sentBy who (reports notes) = list

/-- Someone reports in a computation what is given, or the first of that if it halts. -/
def Utters {α : Type} (who : Option Id) (list : List (Id × Message)) (world : World) :
    EStateM.Result Halt World α → Prop :=
  world.Reaches (Told who list)
    fun before after => ∃ part, part <+: list ∧ before.Told who part after

lemma Utters.reaches {α : Type} {result : EStateM.Result Halt World α} {R : World → World → Prop}
    (utters : middle.Utters who list result)
    (leads : ∀ part after, part <+: list → middle.Told who part after → R before after) :
    before.Reaches R R result := by
  cases result with
  | ok value after => exact leads list after (List.prefix_refl _) utters
  | error halt after =>
    obtain ⟨part, first, told⟩ := utters
    exact leads part after first told

/-- A busy actor reports just what is given. -/
lemma Accounts.told (accounts : before.Accounts who list after) (busy : before.Busy who) :
    before.Told who list after := by
  obtain ⟨notes, journal, given, -⟩ := accounts.noted
  exact ⟨accounts.config, notes, journal, given busy⟩

namespace Told

protected lemma trans (begins : before.Told who first middle) (ends : middle.Told who last after) :
    before.Told who (first ++ last) after := by
  obtain ⟨config, earlier, journal, rfl⟩ := begins
  obtain ⟨config', later, journal', rfl⟩ := ends
  refine ⟨config'.trans config, later ++ earlier, by rw [journal', journal, List.append_assoc], ?_⟩
  rw [reports_append, sentBy_append]

/-- Nothing is reported. -/
lemma of_notes (notes : List Note) (config : after.config = before.config)
    (journal : after.journal = notes ++ before.journal)
    (silent : ∀ note ∈ notes, note.report? = none) : before.Told who [] after :=
  ⟨config, notes, journal, by rw [reports_eq_nil silent]; rfl⟩

lemma turnTo (told : before.Told who list after) (actor : Id) (activity : Activity) :
    before.Told who list (after.turnTo actor activity) :=
  List.append_nil list ▸ told.trans
    (.of_notes [] (updateRunning_config _ _ _) (updateRunning_journal _ _ _) (by simp))

lemma schedule (told : before.Told who list after) (actor : Id) :
    before.Told who list (after.schedule actor) :=
  told

lemma mark (told : before.Told who list after) (message : Id) :
    before.Told who list (after.mark message) := by
  obtain ⟨notes, journal, marks⟩ := after.mark_journal message
  refine List.append_nil list ▸ told.trans
    (.of_notes notes (after.mark_storeFrame message).config journal fun note mem => ?_)
  rcases marks with rfl | rfl
  · cases mem
  · rw [List.mem_singleton.1 mem]
    rfl

end Told

lemma Utters.head {α : Type} {result : EStateM.Result Halt World α}
    (utters : middle.Utters who list result) (begins : before.Told who [] middle) :
    before.Utters who list result := by
  cases result with
  | ok value after => exact begins.trans utters
  | error halt after =>
    obtain ⟨part, first, told⟩ := utters
    exact ⟨part, first, begins.trans told⟩

lemma busy_of_due (waits : world.due? actor = some due) :
    (due.busy actor world).Busy (some actor) := by
  obtain ⟨found, -, -, -⟩ := due?_eq_some.1 waits
  have turned := turnTo_found (.handling due.listed.length) (Engine.pick_found due.listed found)
  exact ⟨actor, _, rfl, turned, by simp⟩

end World

namespace Engine

variable {engine : Engine} {who : Option Id} {world : World} {actor : Id} {due : Due}

/-- In its turn an actor reports what it tells when it deals with the entry, or the first of that if
the turn is broken off. -/
theorem handleNext_told (accounts : engine.Accounts (some actor))
    (waits : world.due? actor = some due) : ∃ told, due.Tells actor (world.fate actor due) told ∧
      (due.busy actor world).Utters (some actor) told (engine.handleNext actor world) := by
  obtain ⟨told, tells, dealt⟩ := deal_accounts accounts actor due (world.fate actor due)
    (due.busy actor world)
  have busy := busy_of_due waits
  refine ⟨told, tells, ?_⟩
  rw [handleNext_eq_deal engine waits]
  rw [tells.sentBy, if_pos rfl] at dealt
  cases ran : engine.deal actor due (world.fate actor due) (due.busy actor world) with
  | ok rerender last =>
    rw [ran] at dealt
    have turned := ((dealt.told busy).mark due.message).turnTo actor .idle
    change (due.busy actor world).Told (some actor) told (last.afterTurn actor due.message _)
    unfold afterTurn
    split
    · exact turned.schedule actor
    · exact turned
  | error halt last =>
    rw [ran] at dealt
    obtain ⟨part, first, dealt⟩ := dealt
    exact ⟨part, first, (dealt.told busy).turnTo actor .idle⟩

/-- A turn that begins a pass of which failures are reported pays for what the actor reports. -/
lemma accounts_of_turn {told part : List (Id × Message)} {after : World}
    (waits : world.due? actor = some due)
    (tells : due.Tells actor (world.fate actor due) told) (first : part <+: told)
    (turned : (due.busy actor world).Told (some actor) part after) :
    world.Accounts (some actor) [] after := by
  obtain ⟨found, idle, -, picked⟩ := due?_eq_some.1 waits
  obtain ⟨config, notes, journal, sent⟩ := turned
  let looks := lookNotes actor due.running.config.inbox (world.lookFor due.running due.listed)
  have begun : (due.busy actor world).journal = looks ++ world.journal :=
    (updateRunning_journal _ _ _).trans (pick_journal _ _ _ _)
  have silent : reports looks = [] := reports_eq_nil (lookNotes_silent _ _ _)
  have free : ¬ world.Busy (some actor) := by
    rintro ⟨_, running, ⟨⟩, there, busy⟩
    rw [Option.some.inj (found.symm.trans there)] at idle
    exact busy idle
  refine .of_free free (config.trans (by rw [Due.busy_frame])) (notes ++ looks)
    (by rw [journal, begun, List.append_assoc]) fun apart reported => ?_
  rw [reports_append, silent, List.nil_append, sent] at reported ⊢
  have modest := (tells.modest apart).of_part first
  -- that the entry is taken is noted, and it is no ERROR
  have taken : .taken actor due.running.config.inbox due.position due.message due.entry ∈ looks :=
    taken_mem_lookNotes ((pick_fst _ _ _ _).symm.trans picked)
  exact ⟨modest.total, mem_ventures (List.mem_append_right notes taken)
    (if_neg fun error => reported (modest.silent error))⟩

/-- Whatever is reported in a turn is accounted for. -/
theorem handleNext_accounts (accounts : engine.Accounts who) (id : Id) (world : World) :
    Run.Keeps (World.Accounts who []) (World.Accounts who []) (engine.handleNext id) world := by
  rw [Run.Keeps]
  cases waits : world.due? id with
  | none =>
    rcases handleNext_looks engine waits with halted | ⟨after, ran, rfl | ⟨running, listed, rfl⟩⟩
    · rw [halted]
      exact .refl world
    · rw [ran]
      exact .refl _
    · rw [ran]
      exact world.pick_accounts id running listed
  | some due =>
    by_cases own : who = some id
    · subst own
      obtain ⟨told, tells, turned⟩ := handleNext_told accounts waits
      exact turned.reaches fun part after => accounts_of_turn waits tells
    · obtain ⟨told, tells, dealt⟩ := deal_accounts accounts id due (world.fate id due)
        (due.busy id world)
      rw [tells.sentBy, if_neg own] at dealt
      replace dealt := dealt.silent
      have busy : world.Accounts who [] (due.busy id world) :=
        (world.pick_accounts id due.running due.listed).trans (turnTo_accounts own _ _)
      rw [handleNext_eq_deal engine waits]
      cases ran : engine.deal id due (world.fate id due) (due.busy id world) with
      | ok rerender last =>
        rw [ran] at dealt
        have turned := ((busy.trans dealt).trans (last.mark_accounts due.message)).trans
          (turnTo_accounts own _ .idle)
        change world.Accounts who [] (last.afterTurn id due.message _)
        unfold afterTurn
        split
        · exact turned.trans (.of_same rfl rfl rfl)
        · exact turned
      | error halt last =>
        rw [ran] at dealt
        exact (busy.trans dealt).trans (turnTo_accounts own _ .idle)

end Engine

/-! ## Starts -/

/-- What an actor tells of failures when it is started. -/
def Behavior.Tells (behavior : Behavior) (actor : Actor) (told : List (Id × Message)) : Prop :=
  ∃ log last,
    (behavior.start actor behavior.initialMemory).Yields behavior.initialMemory log () last ∧
    Occasion.Passes ⟨actor, behavior.named, Machine.initialEvent⟩ log ∧ told = Exchange.reports log

lemma Behavior.Tells.modest {behavior : Behavior} {actor : Actor} {told : List (Id × Message)}
    (tells : behavior.Tells actor told) :
    Modest actor.id Machine.initialEvent.name none told := by
  obtain ⟨log, last, -, passes, rfl⟩ := tells
  exact passes.modest

/-- All of it is sent by the actor. -/
lemma Behavior.Tells.sentBy {behavior : Behavior} {actor : Actor} {told : List (Id × Message)}
    (tells : behavior.Tells actor told) (who : Option Id) :
    Troupe.sentBy who told = if who = some actor.id then told else [] :=
  sentBy_of_senders tells.modest.senders who

namespace Engine

variable {engine : Engine} {who : Option Id} {world : World} {id : Id} {config : ActorConfig}
variable {behavior : Behavior}

/-- What an actor tells in its start pass is all that is to be accounted for. -/
theorem start_accounts (accounts : engine.Accounts who) (id : Id) (config : ActorConfig)
    (behavior : Behavior) (world : World) : ∃ told, behavior.Tells ⟨id, config⟩ told ∧
      world.AccountsFor who (sentBy who told)
        (engine.runPass id (behavior.start ⟨id, config⟩ behavior.initialMemory) world) := by
  obtain ⟨log, ⟨⟩, last, yields, ran⟩ := runPass_accounts accounts id
    (behavior.start ⟨id, config⟩ behavior.initialMemory) behavior.initialMemory world
  exact ⟨_, ⟨log, last, yields, Behavior.start_passes yields, rfl⟩, ran⟩

/-- When it is started an actor reports what it tells in its start pass, or the first of that if the
pass is broken off. -/
theorem spawnWith_told (accounts : engine.Accounts (some id))
    (stopped : world.running.contains id = false) (record : world.actorConfig id = .ok config)
    (loaded : Behavior.load config.behavior world.config = .ok behavior) :
    ∃ told, behavior.Tells ⟨id, config⟩ told ∧
      (world.enlist id config behavior).Utters (some id) told (engine.spawnWith id world) := by
  let entered := (world.enlist id config behavior).turnTo id .starting
  obtain ⟨told, tells, ran⟩ := start_accounts accounts id config behavior entered
  have busy : entered.Busy (some id) :=
    ⟨id, _, rfl, enlist_found world id config behavior, by simp⟩
  have begun : (world.enlist id config behavior).Told (some id) [] entered :=
    .of_notes [] (updateRunning_config _ _ _) (updateRunning_journal _ _ _) (by simp)
  refine ⟨told, tells, ?_⟩
  rw [spawnWith_of_record engine stopped record loaded]
  rw [tells.sentBy, if_pos rfl] at ran
  cases passed : engine.runPass id (behavior.start ⟨id, config⟩ behavior.initialMemory) entered with
  | ok result after =>
    rw [passed] at ran
    exact ((begun.trans (ran.told busy)).turnTo id .idle).schedule id
  | error halt after =>
    rw [passed] at ran
    obtain ⟨part, first, ran⟩ := ran
    exact ⟨part, first, (begun.trans (ran.told busy)).turnTo id .idle⟩

/-- A start pays for what the actor reports. -/
lemma accounts_of_start {told part : List (Id × Message)} {after : World}
    (stopped : world.running.contains id = false) (tells : behavior.Tells ⟨id, config⟩ told)
    (first : part <+: told)
    (started : (world.enlist id config behavior).Told (some id) part after) :
    world.Accounts (some id) [] after := by
  obtain ⟨same, notes, journal, sent⟩ := started
  have free : ¬ world.Busy (some id) := by
    rintro ⟨_, running, ⟨⟩, there, -⟩
    rw [Table.contains, there] at stopped
    cases stopped
  have begun : (world.enlist id config behavior).journal =
    [.spawned id config.inbox] ++ world.journal := rfl
  refine .of_free free same (notes ++ [.spawned id config.inbox])
    (by rw [journal, begun, List.append_assoc]) fun _ _ => ?_
  have reported : sentBy (some id) (reports (notes ++ [.spawned id config.inbox])) = part := by
    rw [reports_append, ← sent]
    rfl
  rw [reported]
  exact ⟨(tells.modest.of_part first).total,
    mem_ventures (List.mem_append_right notes (List.mem_singleton_self _)) rfl⟩

/-- In the start pass of one actor no other reports anything. -/
lemma start_silent (accounts : engine.Accounts who) (own : who ≠ some id) (config : ActorConfig)
    (behavior : Behavior) (world : World) :
    Run.Keeps (World.Accounts who []) (World.Accounts who [])
      (engine.runPass id (behavior.start ⟨id, config⟩ behavior.initialMemory)) world := by
  obtain ⟨told, tells, ran⟩ := start_accounts accounts id config behavior world
  rw [tells.sentBy, if_neg own] at ran
  exact ran.silent

/-- Whatever is reported when an actor is started is accounted for. -/
theorem spawnWith_accounts (accounts : engine.Accounts who) (id : Id) (world : World) :
    Run.Keeps (World.Accounts who []) (World.Accounts who []) (engine.spawnWith id) world := by
  have startup := engine.spawnWith_startup id world
  by_cases own : who = some id
  · subst own
    have told := @spawnWith_told engine world id
    rw [Run.Keeps]
    generalize engine.spawnWith id world = result at startup told ⊢
    cases startup with
    | running | unrecorded | unloaded => exact .refl world
    | passed stopped record loaded | halted stopped record loaded =>
      obtain ⟨_, tells, started⟩ := told accounts stopped record loaded
      exact started.reaches fun part after => accounts_of_start stopped tells
  · have begun : ∀ config behavior, world.Accounts who []
        ((world.enlist id config behavior).turnTo id .starting) := fun config behavior =>
      (world.enlist_accounts own config behavior).trans (turnTo_accounts own _ .starting)
    rw [Run.Keeps]
    generalize engine.spawnWith id world = result at startup ⊢
    cases startup with
    | running | unrecorded | unloaded => exact .refl world
    | @passed config behavior last stopped record loaded passed =>
      have passes := (begun config behavior).trans
        ((start_silent accounts own config behavior _).ok passed)
      exact (passes.trans (turnTo_accounts own _ .idle)).trans (.of_same rfl rfl rfl)
    | @halted config behavior halt last stopped record loaded halted =>
      have passes := (begun config behavior).trans
        ((start_silent accounts own config behavior _).error halted)
      exact passes.trans (turnTo_accounts own _ .idle)

/-! ## The whole engine -/

/-- A post is accounted for by the report that it may be. -/
lemma post_accounts {target : Id} (starts : ∀ world,
      Run.Keeps (World.Accounts who []) (World.Accounts who []) (engine.spawn target) world)
    (message : Message) (world : World) :
    Run.Keeps (World.Accounts who (sentBy who (message.reportTo? target).toList))
      (World.Accounts who (sentBy who (message.reportTo? target).toList))
      (engine.post target message) world := by
  have sent : world.Accounts who _ (world.post target message).2 :=
    world.post_accounts target message
  rw [Run.Keeps, post_eq]
  generalize world.post target message = posted at sent ⊢
  obtain ⟨error | id, middle⟩ := posted
  · exact sent
  · dsimp only
    split
    · exact sent
    · have started := starts middle
      rw [← List.append_nil (sentBy who _)]
      cases ran : engine.spawn target middle with
      | ok answer after => exact sent.trans (started.ok ran)
      | error halt after => exact sent.trans (started.error ran)

end Engine

/-- However deep calls nest, all that is reported is accounted for. -/
theorem engine_accounts (who : Option Id) (depth : Nat) : (engine depth).Accounts who ∧
    ∀ id world, Run.Keeps (World.Accounts who []) (World.Accounts who [])
      ((engine depth).spawn id) world := by
  have regime : Regime (World.Accounts who []) (World.Accounts who []) := accounts_custom.toRegime
  induction depth with
  | zero =>
    have starts : ∀ id world, Run.Keeps (World.Accounts who []) (World.Accounts who [])
        ((engine 0).spawn id) world := fun id world => .refl world
    exact ⟨⟨fun target => Engine.post_accounts (starts target), fun world => .refl world⟩, starts⟩
  | succ depth ih =>
    have starts : ∀ id world, Run.Keeps (World.Accounts who []) (World.Accounts who [])
        ((engine (depth + 1)).spawn id) world := by
      intro id world
      change Run.Keeps _ _ (Engine.spawnAt (depth + 1) id) world
      rw [Engine.spawnAt]
      exact Engine.spawnWith_accounts ih.1 id world
    refine ⟨⟨fun target => Engine.post_accounts (starts target), fun world => ?_⟩, starts⟩
    change Run.Keeps _ _ (Engine.pumpAt (depth + 1)) world
    rw [Engine.pumpAt]
    exact Engine.pumpWith_keeps regime ih.1.keeps (Engine.handleNext_accounts ih.1) (depth + 1)
      world

/-! ## Runs -/

namespace World

variable {world before middle after : World}

/-- Between two states nobody reports more than three failures for each pass that it begins of which
failures are reported. -/
def Curbs (before after : World) : Prop :=
  ∃ notes, after.journal = notes ++ before.journal ∧ ∀ who,
    (sentBy who (reports notes)).length ≤ 3 * ((ventures notes).map some).count who

namespace Curbs

/-- Nothing is reported. -/
lemma of_notes (notes : List Note) (journal : after.journal = notes ++ before.journal)
    (silent : ∀ note ∈ notes, note.report? = none) : before.Curbs after := by
  refine ⟨notes, journal, fun who => ?_⟩
  rw [reports_eq_nil silent]
  exact Nat.zero_le _

protected lemma refl (world : World) : world.Curbs world := of_notes [] rfl (by simp)

protected lemma trans (begins : before.Curbs middle) (ends : middle.Curbs after) :
    before.Curbs after := by
  obtain ⟨earlier, journal, early⟩ := begins
  obtain ⟨later, journal', late⟩ := ends
  refine ⟨later ++ earlier, by rw [journal', journal, List.append_assoc], fun who => ?_⟩
  rw [reports_append, ventures_append, sentBy_append, List.map_append, List.count_append,
    List.length_append]
  have early := early who
  have late := late who
  omega

lemma of_accounts (apart : before.config.mutationEvent ≠ errorEvent)
    (accounts : ∀ who, before.Accounts who [] after) : before.Curbs after := by
  obtain ⟨notes, journal, -, -⟩ := (accounts none).noted
  refine ⟨notes, journal, fun who => ?_⟩
  obtain ⟨others, journal', -, bounded⟩ := (accounts who).noted
  obtain rfl := List.append_cancel_right (journal.symm.trans journal')
  exact bounded apart

end Curbs

lemma stop_curbs (actor : Id) (world : World) : Run.Keeps Curbs Curbs (stop actor) world := by
  rw [Run.Keeps, stop, Run.get_bind]
  cases world.running.find? actor with
  | none => exact .refl world
  | some running =>
    dsimp only
    by_cases idle : running.activity = .idle
    · rw [if_neg (not_not.2 idle)]
      refine .of_notes (_ ++ [.stopped actor]) (by rw [List.append_assoc]; rfl) fun note mem => ?_
      rcases List.mem_append.1 mem with abandoned | stopped
      · obtain ⟨_, -, rfl⟩ := List.mem_map.1 abandoned
        rfl
      · rw [List.mem_singleton.1 stopped]
        rfl
    · rw [if_pos idle]
      exact .refl world

/-- Whatever is done from outside, failures are curbed, unless an ERROR is a mutation. -/
theorem run_curbs (apart : world.config.mutationEvent ≠ errorEvent) (fuel : Nat)
    (command : Command) : Run.Keeps Curbs Curbs (command.run fuel) world := by
  have mild (mild : command.Mild) : Run.Keeps Curbs Curbs (command.run fuel) world := by
    have kept (who : Option Id) := command.run_keeps accounts_custom
      (engine_accounts who fuel).1.keeps (engine_accounts who fuel).2 mild world
    rw [Run.Keeps]
    cases ran : command.run fuel world with
    | ok done after => exact .of_accounts apart fun who => (kept who).ok ran
    | error halt after => exact .of_accounts apart fun who => (kept who).error ran
  cases command with
  | stop actor =>
    have stopped := stop_curbs actor world
    change world.Reaches Curbs Curbs ((World.stop actor >>= fun _ => (pure () : Run Unit)) world)
    cases ran : World.stop actor world with
    | ok did after =>
      rw [Run.bind_of_ok ran]
      exact stopped.ok ran
    | error halt after =>
      rw [Run.bind_of_error ran]
      exact stopped.error ran
  | restart config =>
    change world.Curbs (world.restart config)
    unfold World.restart
    cases restored : world.restore? config with
    | none => exact .refl world
    | some after =>
      obtain ⟨store, -, rfl⟩ := restore?_some restored
      exact .of_notes [.restored] rfl (by simp [Note.report?])
  | _ => exact mild trivial

end World

/-- The states that a runtime comes to by commands, whether they return or halt, none of which is
run while ERROR is the event type of mutations: an ERROR there is a report and nothing else. -/
inductive ReportingSession (first : World) : World → Prop
  /-- The first state. -/
  | first : ReportingSession first first
  /-- A command has returned. -/
  | returned {world after : World} (fuel : Nat) (command : Command) :
    ReportingSession first world → world.config.mutationEvent ≠ errorEvent →
    command.run fuel world = .ok () after → ReportingSession first after
  /-- A command has halted. -/
  | halted {world after : World} {halt : Halt} (fuel : Nat) (command : Command) :
    ReportingSession first world → world.config.mutationEvent ≠ errorEvent →
    command.run fuel world = .error halt after → ReportingSession first after

lemma ReportingSession.curbs {first world : World} (session : ReportingSession first world) :
    first.Curbs world := by
  induction session with
  | first => exact .refl first
  | returned fuel command _ apart ran ih => exact ih.trans ((run_curbs apart fuel command).ok ran)
  | halted fuel command _ apart ran ih => exact ih.trans ((run_curbs apart fuel command).error ran)

/-- Commands that return make a run, if none of them begins anew. -/
lemma ReportingSession.exists_of_allReturn {first world : World} (fuel : Nat)
    (commands : List Command) (test : World → Bool) (session : ReportingSession first world)
    (apart : world.config.mutationEvent ≠ errorEvent) (mild : ∀ command ∈ commands, command.Mild)
    (returned : Command.allReturn fuel commands test world) :
    ∃ last, ReportingSession first last ∧ test last := by
  induction commands generalizing world with
  | nil => exact ⟨world, session, returned⟩
  | cons command rest ih =>
    obtain ⟨⟨⟩, after, ran, returned⟩ := Run.exists_of_returns (command.run fuel) _ world returned
    obtain ⟨accounts, starts⟩ := engine_accounts none fuel
    have same := ((command.run_keeps accounts_custom accounts.keeps starts
      (mild command (List.mem_cons_self ..)) world).ok ran).config
    exact ih (session.returned fuel command apart ran) (by rwa [same])
      (fun other mem => mild other (List.mem_cons_of_mem _ mem)) returned

lemma length_sentBy (who : Option Id) (reports : List (Id × Message)) :
    (sentBy who reports).length = (reports.map fun report => report.2.source).count who := by
  rw [sentBy, ← List.countP_eq_length_filter, List.count, List.countP_map]
  refine List.countP_congr fun report _ => ?_
  simp

/-- What holds for everybody holds for all of them together. -/
lemma length_reports_le {notes : List Note} (curbed : ∀ who, (sentBy who (reports notes)).length ≤
    3 * ((ventures notes).map some).count who) :
    (reports notes).length ≤ 3 * (ventures notes).length := by
  let senders := (reports notes).map fun report => report.2.source
  let actors := (ventures notes).map some
  have within : senders.Subperm (actors ++ actors ++ actors) := by
    refine List.subperm_ext_iff.2 fun who _ => ?_
    have each : senders.count who ≤ 3 * actors.count who := by
      rw [← length_sentBy]
      exact curbed who
    rw [List.count_append, List.count_append]
    omega
  have length := within.length_le
  simp only [senders, actors, List.length_append, List.length_map] at length
  omega

/-! ## Failures do not feed themselves -/

/-- Failures do not feed themselves in what a runtime does from a state on. -/
structure World.Quells (first : World) : Prop where
  /-- A pass over an event, whatever it is answered, fails at most once: it stops when that is told,
  and what was staged so far is written. -/
  pass : ∀ {behavior : Behavior} {actor : Actor} {memory : Memory} {event : Event}
    {log : List Exchange} {dispatch : Dispatch} {after : Memory},
    (behavior.send actor memory event).Yields memory log dispatch after →
    Occasion.Passes ⟨actor, behavior.named, event⟩ log
  /-- So does a start pass. -/
  startPass : ∀ {behavior : Behavior} {actor : Actor} {memory : Memory} {log : List Exchange}
    {after : Memory}, (behavior.start actor memory).Yields memory log () after →
    Occasion.Passes ⟨actor, behavior.named, Machine.initialEvent⟩ log
  /-- In its turn, an actor reports what it tells when it deals with the entry: nothing of an ERROR,
  one thing of a mutation, and of anything else one thing to the sender and two to itself. -/
  turn : ∀ (depth : Nat) (actor : Id) (due : Due), first.due? actor = some due →
    ∃ told, due.Tells actor (first.fate actor due) told ∧
      Modest actor due.entry.type due.entry.source told ∧
      (∀ payload, first.fate actor due = .mutation payload → told.length ≤ 1) ∧
      first.Utters (some actor) told ((engine depth).handleNext actor first)
  /-- When it is started, an actor reports what it tells in its start pass: two things to itself. -/
  start : ∀ (depth : Nat) (actor : Id) (config : ActorConfig) (behavior : Behavior),
    first.running.contains actor = false → first.actorConfig actor = .ok config →
    Behavior.load config.behavior first.config = .ok behavior →
    ∃ told, behavior.Tells ⟨actor, config⟩ told ∧
      Modest actor Machine.initialEvent.name none told ∧
      first.Utters (some actor) told ((engine (depth + 1)).spawn actor first)
  /-- In a run there are at most three reports for each start and each entry that is taken and is no
  ERROR: three by an actor for each of its own. -/
  run : ∀ {world : World}, ReportingSession first world →
    ∃ notes, world.journal = notes ++ first.journal ∧
      (∀ actor, (sentBy (some actor) (reports notes)).length ≤ 3 * (ventures notes).count actor) ∧
      (reports notes).length ≤ 3 * (ventures notes).length

/-- **Failures do not feed themselves**, unless an ERROR is a mutation. -/
theorem World.quells (first : World) (apart : first.config.mutationEvent ≠ errorEvent) :
    first.Quells where
  pass := Behavior.send_passes
  startPass := Behavior.start_passes
  turn depth actor due waits := by
    obtain ⟨told, tells, turned⟩ := Engine.handleNext_told (engine_accounts _ depth).1 waits
    have begun : first.Told (some actor) [] (due.busy actor first) := by
      refine .of_notes _ (by rw [Due.busy_frame])
        ((updateRunning_journal _ _ _).trans (pick_journal _ _ _ _)) (lookNotes_silent _ _ _)
    refine ⟨told, tells, tells.modest apart, fun payload fate => ?_, turned.head begun⟩
    rw [fate] at tells
    cases tells with
    | idle idle => exact idle.elim
    | applied => exact Nat.zero_le _
    | refused => exact Nat.le_refl _
  start depth actor config behavior stopped record loaded := by
    obtain ⟨told, tells, started⟩ :=
      Engine.spawnWith_told (engine_accounts _ depth).1 stopped record loaded
    have begun : first.Told (some actor) [] (first.enlist actor config behavior) :=
      .of_notes [_] rfl rfl (by simp [Note.report?])
    refine ⟨told, tells, tells.modest, ?_⟩
    change first.Utters _ _ (Engine.spawnAt (depth + 1) actor first)
    rw [Engine.spawnAt]
    exact started.head begun
  run session := by
    obtain ⟨notes, journal, curbed⟩ := session.curbs
    refine ⟨notes, journal, fun actor => ?_, length_reports_le curbed⟩
    have bound := curbed (some actor)
    rwa [List.count_map_of_injective _ some (fun _ _ => Option.some.inj)] at bound

namespace Sample

/-- The record of an actor that fails whatever it is told, ERROR included. -/
def hapless (inbox context : Nat) : Json :=
  let action : Json := .record
    [("invoke", .record [("target", .id (.ofNat 99)), ("payload", .empty)])]
  ActorConfig.toJson ⟨["ERROR", "GO"], .ofNat inbox, .ofNat context,
    .record [("kind", .str "process"), ("handlers", .record
      [("ERROR", .arr [action]), ("GO", .arr [action])])],
    none, ∅, Table.ofList [("ERROR", .bool true), ("GO", .bool true)]⟩

/-- Another actor. -/
def companion : Id := .ofNat 8

/-- A runtime over a saved store that knows two such actors.  One has sent the other a message. -/
def hopeless : World :=
  let told : Message := { type := "GO", payload := .empty, source := some companion }
  World.new {} (Store.ofImage ⟨.ofNat, 20⟩ ⟨Table.ofList
    [(.ofNat 1, .obj [("entries", .arr [.id (.ofNat 4)])]), (.ofNat 2, .empty),
      (actor, hapless 1 2), (.ofNat 4, (Entry.pending actor told).toJson),
      (.ofNat 6, .obj [("entries", .arr [])]), (.ofNat 7, .empty), (companion, hapless 6 7)], ∅⟩)
    ⟨.ofNat, 0⟩ ⟨0, 1000⟩

end Sample

/-- Two actors fail at whatever they are told, and one of them cannot write its context either.
When they have been started and the message has been handled, three failures have been reported,
and nothing is left to do. -/
theorem World.quells_hopeless : ∃ world notes, ReportingSession Sample.hopeless world ∧
    world.journal = notes ++ Sample.hopeless.journal ∧ world.ready.order = [] ∧
    (reports notes).map Prod.fst = [Sample.companion, Sample.actor, Sample.actor] ∧
    ventures notes = [Sample.companion, Sample.actor, Sample.actor] ∧
    (reports notes).length ≤ 3 * (ventures notes).length := by
  have apart : Sample.hopeless.config.mutationEvent ≠ errorEvent := by decide
  obtain ⟨world, session, tested⟩ := ReportingSession.exists_of_allReturn 6
    [.protect (.ofNat 2), .start Sample.companion, .start Sample.actor, .pump]
    (fun world => world.ready.order.isEmpty &&
      (reports world.journal).map Prod.fst == [Sample.companion, Sample.actor, Sample.actor] &&
      ventures world.journal == [Sample.companion, Sample.actor, Sample.actor])
    .first apart (by simp [Command.Mild]) (by decide +kernel)
  obtain ⟨notes, journal, -, bounded⟩ := (World.quells Sample.hopeless apart).run session
  have fresh : Sample.hopeless.journal = [] := rfl
  obtain rfl : world.journal = notes := by rw [journal, fresh, List.append_nil]
  simp only [Bool.and_eq_true, List.isEmpty_iff, beq_iff_eq] at tested
  obtain ⟨⟨idle, told⟩, began⟩ := tested
  exact ⟨world, world.journal, session, journal, idle, told, began, bounded⟩

end Troupe
