import Troupe.Proofs.World.Correlations
import Troupe.Proofs.World.Replies
import Troupe.Proofs.World.Rounds

/-!
# Requests and replies

Whatever a pass tells carries the correlation of its event, and whatever it asks has a new one, under
which the ask waits in the name of the actor.  So the reply to a request leads back to the ask.

When an actor runs its tool for a request, or fails before that, a reply is put into the inbox of
the asker.  It lies there until the asker takes it, and it does so before the pump returns, since the
asker is queued as long as anything waits for it.  Replies are valid for every actor that accepts
them, so the asker receives the reply, and the ask is settled.

All this holds if others leave the inbox to the asker.  Anyone may write to any object; whoever takes
entries from an inbox that its actor has come past makes the actor miss what is put there next
(`Inquiry.misses_reply`).

## Main results

* `World.Hears.received`: a reply to an ask that has not timed out is received;
* `Engine.Reception.replies`: a round in which a request is served puts a reply into the inbox of the
  asker;
* `Inquiry.taken`: the asker takes the reply in the same pump;
* `Inquiry.replies_arrive`: what messages carry, and that a request that is served is answered.
-/

namespace Troupe

open Relation World

/-! ## Replies are valid -/

namespace Schema

open Registry

lemma propertyViolations_none (fields : List (String × Json)) (path : String) :
    propertyViolations fields none path = [] := by
  induction fields with
  | nil => rw [propertyViolations]
  | cons field rest ih =>
    rw [propertyViolations, ih]
    rfl

/-- Any object is a payload of a SUCCESS. -/
lemma validate_object (fields : List (String × Json)) :
    validate (ofType "object") (.obj fields) = [] := by
  have schema : ofType "object" = .obj [("type", .str "object")] := rfl
  simp [schema, propertyViolations_none, validate, violations, typeViolation?, allowedTypes,
    hasType, Json.kindName, constViolations, enumViolations, boundViolations, lengthViolations,
    requiredViolations, additionalViolations, Assoc.find?_cons, Json.float?, Json.number?]

/-- Whatever fails, it can be told in an ERROR. -/
lemma validate_error (error : ActionError) : validate errorSchema error.payload = [] := by
  have schema : errorSchema = .obj [("properties", .obj [("errors", .obj [("items", .obj [
      ("properties", .obj [("kind", ofType "string"), ("message", ofType "string")]),
      ("required", .arr [.str "kind", .str "message"]), ("type", .str "object")]),
      ("type", .str "array")])]), ("required", .arr [.str "errors"]), ("type", .str "object")] := rfl
  have text : ofType "string" = .obj [("type", .str "string")] := rfl
  have payload : error.payload = .obj [("errors", .arr [.obj [("kind", .str error.kind.name),
      ("message", .str error.message)]])] := by
    have order : ¬ "message" < "kind" ∧ ¬ "kind" = "message" := by decide
    simp only [ActionError.payload, Json.record, Assoc.ofList, Assoc.insert, List.foldl_cons,
      List.foldl_nil, order, if_false]
  simp [schema, payload, text, validate, violations, typeViolation?, allowedTypes, hasType,
    Json.kindName, constViolations, enumViolations, boundViolations, lengthViolations,
    requiredViolations, additionalViolations, propertyViolations, itemViolations,
    Assoc.find?_cons, Json.float?, Json.number?, Json.stringItems, Json.string?, Assoc.contains,
    Json.field?]

end Schema

namespace World

variable {world before after later : World} {actor correlation : Id} {config : ActorConfig}
variable {message : Message} {occasion : Occasion}

/-- An answer to an ask that has not timed out is not too late. -/
lemma acceptReply_of_untracked {entry : Entry} {receiver id : Id}
    (carries : entry.correlation = some correlation)
    (untracked : world.expired.find? correlation = none) :
    (world.acceptReply receiver id entry).1 = true := by
  unfold acceptReply
  rw [carries]
  dsimp only
  rw [untracked]
  split_ifs with own late
  · rfl
  · cases late
  · rfl
  · rfl

/-- An actor that can be answered: it runs, replies can be put into its inbox, and it accepts them
under the schemas that every runtime has for them. -/
structure Hears (world : World) (actor : Id) (config : ActorConfig) : Prop
    extends Within world actor config where
  /-- Its inbox is not protected. -/
  free : config.inbox ∉ world.store.locked
  /-- It accepts successes, -/
  success : config.accepts successEvent = true
  /-- with any object that tells of one, -/
  successSchema : Inbox.schemaFor? world.schemas ⟨actor, config⟩ successEvent =
    some (Schema.Registry.ofType "object")
  /-- and failures, -/
  error : config.accepts errorEvent = true
  /-- with a list of errors. -/
  errorSchema : Inbox.schemaFor? world.schemas ⟨actor, config⟩ errorEvent =
    some Schema.Registry.errorSchema
  /-- Neither is a store mutation. -/
  mutation : world.config.mutationEvent ≠ successEvent ∧ world.config.mutationEvent ≠ errorEvent

/-- An actor without schemas of its own for replies can be answered in a runtime in which no other
schemas are registered. -/
lemma Within.hears (within : world.Within actor config) (free : config.inbox ∉ world.store.locked)
    (schemas : world.schemas = .initial world.config.mutationEvent)
    (mutation : world.config.mutationEvent ≠ successEvent ∧
      world.config.mutationEvent ≠ errorEvent)
    (success : config.accepts successEvent = true) (error : config.accepts errorEvent = true)
    (own : config.schemas.find? successEvent = none)
    (own' : config.schemas.find? errorEvent = none) : world.Hears actor config where
  toWithin := within
  free := free
  success := success
  error := error
  mutation := mutation
  successSchema := by
    have other : errorEvent ≠ successEvent := by decide
    simp [Inbox.schemaFor?, schemas, own, Schema.Registry.initial, Schema.Registry.find?_register,
      mutation.1, other]
  errorSchema := by
    simp [Inbox.schemaFor?, schemas, own', Schema.Registry.initial, Schema.Registry.find?_register,
      mutation.2]

namespace Hears

/-- A reply is valid for an actor that can be answered. -/
lemma valid (hears : world.Hears actor config) (replies : occasion.Replies message) (id : Id) :
    message.type ≠ world.config.mutationEvent ∧
      Inbox.validate world.schemas world.config.mutationEvent ⟨actor, config⟩ id message.type
        message.payload = .valid (Inbox.keyed id message.payload) := by
  have validates : ∀ {event schema}, config.accepts event = true →
      Inbox.schemaFor? world.schemas ⟨actor, config⟩ event = some schema →
      world.config.mutationEvent ≠ event → Schema.validate schema message.payload = [] →
      Inbox.validate world.schemas world.config.mutationEvent ⟨actor, config⟩ id event
        message.payload = .valid (Inbox.keyed id message.payload) := by
    intro event schema accepts known other conforms
    unfold Inbox.validate
    simp only [accepts, known, conforms, other.symm, Bool.not_true, Bool.false_eq_true, if_false,
      false_and]
  rcases replies.tells with ⟨type, payload, result, told⟩ | ⟨type, error, told⟩
  · rw [type]
    refine ⟨hears.mutation.1.symm, validates hears.success hears.successSchema hears.mutation.1 ?_⟩
    rw [told]
    exact Schema.validate_object _
  · rw [type]
    refine ⟨hears.mutation.2.symm, validates hears.error hears.errorSchema hears.mutation.2 ?_⟩
    rw [told]
    exact Schema.validate_error error

/-- A reply to an ask that has not timed out is received when it is due. -/
lemma received (hears : world.Hears actor config) (replies : occasion.Replies message)
    (same : later.config = world.config) (schemas : later.schemas = world.schemas) {due : Due}
    (own : due.running.config = config) (entry : due.entry = Entry.pending actor message)
    (carries : message.correlation = some correlation)
    (untracked : later.expired.find? correlation = none) :
    later.fate actor due = .received ⟨message.type, Inbox.keyed due.message message.payload,
      message.source, message.correlation⟩ := by
  obtain ⟨event, valid⟩ := hears.valid replies due.message
  have accepted : (later.acceptReply actor due.message due.entry).1 = true :=
    acceptReply_of_untracked (entry ▸ carries) untracked
  have checked : Inbox.validate later.schemas later.config.mutationEvent
      ⟨actor, due.running.config⟩ due.message due.entry.type due.entry.payload =
        .valid (Inbox.keyed due.message message.payload) := by
    rw [same, schemas, own, entry]
    exact valid
  rw [fate_of_valid checked, accepted, same, entry]
  exact (if_neg event).trans (if_pos rfl)

end Hears

end World

/-! ## The reply is sent -/

namespace Engine

/-- In a round whose pass serves the event, a reply is posted to whoever sent it. -/
lemma Reception.replies {engine : Engine} (bySteps : engine.BySteps) {before after : World}
    (turn : engine.Reception before after) {sender : Id}
    (serves : engine.Serves turn.occasion turn.pass turn.start)
    (source : turn.event.source = some sender) (request : turn.event.name ≠ errorEvent)
    (runs : before.running.contains sender) :
    ∃ message posting, turn.occasion.Replies message ∧ Steps before posting ∧
      Steps (posting.post sender message).2 after := by
  obtain ⟨dispatch, worked, ran, concludes⟩ := turn.exists_worked
  obtain ⟨message, next, posting, reached, replies⟩ := serves.answers source request ran
  have gets : engine.GetsTo turn.actor turn.pass turn.start (.deliver sender message next)
    posting := reached
  have asks := turn.due.running.behavior.send_asksAs ⟨turn.actor, turn.due.running.config⟩
    turn.due.running.memory turn.event
  obtain ⟨early, nests⟩ := gets.bySteps bySteps asks turn.runs_start
  have sofar : Steps before posting := turn.steps_start.trans early
  -- the sender goes on running, so it gets the message and nobody is started for it
  obtain ⟨running, found⟩ := Option.isSome_iff_exists.1 runs
  obtain ⟨now, there, -⟩ :=
    ((StepsOrBreaks.changes (Steps.stepsOrBreaks sofar)).routes sender).kept sender running found
  have posted := post_eq_of_runs engine message (Option.isSome_iff_exists.2 ⟨now, there⟩)
  have ran := gets.runPass_eq.symm.trans ran
  have rest : engine.runPass turn.actor
      (next ((posting.post sender message).1.mapError ActionError.ofRuntime))
      (posting.post sender message).2 = .ok dispatch worked :=
    (Run.bind_of_ok posted).symm.trans ran
  have storeFrame := (posting.post_storeFrame sender message).nests
  have others : (next ((posting.post sender message).1.mapError ActionError.ofRuntime)).AsksAs
      turn.actor := (gets.only asks).2 _
  have pass := runPass_bySteps bySteps _ others (posting.post sender message).2
    (storeFrame.contains (nests.contains turn.runs_start))
  obtain ⟨late, nests'⟩ := pass.ok rest
  exact ⟨message, posting, replies, sofar,
    late.trans (turn.steps_after bySteps ((nests.trans storeFrame).trans nests') concludes)⟩

/-- When an answer to an ask is received, the ask waits no longer. -/
lemma Reception.shut {engine : Engine} {before after : World} (turn : engine.Reception before after)
    (apart : before.AsksApart) (once : before.AskedOnce) (fresh : turn.start.correlations.Fresh)
    {correlation : Id} {ask : PendingAsk} (asked : .asked correlation ask ∈ before.journal)
    (asker : ask.asker = turn.actor) (carries : turn.due.entry.correlation = some correlation)
    (reply : turn.due.entry.type = successEvent ∨ turn.due.entry.type = errorEvent) :
    turn.start.Shut correlation := by
  cases waits : before.pending.find? correlation with
  | none =>
    exact Shut.moves (Steps.moves turn.steps_start) fresh
      ⟨once.minted _ _ asked, waits⟩
  | some other =>
    obtain rfl := once.once _ _ _ asked (once.pending _ _ waits)
    have pending : turn.busy.pending = before.pending := Due.busy_pending
    have expired : turn.busy.expired = before.expired := Due.busy_expired
    have correlations : turn.busy.correlations = before.correlations := Due.busy_correlations
    exact (apart.accepts pending expired correlations carries (fun _ => reply) waits asker
      turn.due.message).2

end Engine

/-! ## The answer is received -/

/-- What is so when a runtime begins. -/
structure World.Begins (world : World) : Prop where
  /-- Every object has its identifier from the supply. -/
  stocked : world.Stocked
  /-- Nothing has happened, -/
  journal : world.journal = []
  /-- no wakeup is lost, -/
  awake : world.Awake
  /-- and nothing was asked. -/
  apart : world.AsksApart
  /-- No two asks have the same correlation. -/
  once : world.AskedOnce

/-- A runtime begins over the objects of a saved store. -/
lemma World.begins_new {supply : Supply} {image : StoreImage}
    (minted : ∀ id, (image.objects.find? id).isSome → supply.Minted id) (settings : Config)
    (correlations : Supply) (clock : Clock) :
    (World.new settings (Store.ofImage supply image) correlations clock).Begins where
  stocked := minted
  journal := rfl
  awake := awake_of_stopped rfl rfl rfl
  apart := .first _ _ _ _
  once := .first _ _ _ _

/-- A pump in which an actor receives a request and serves it: it runs its tool, or it fails before
that. -/
structure Inquiry (depth : Nat) (first start now middle last : World)
    (turn : (engine depth).Reception now middle) (correlation : Id) (ask : PendingAsk)
    (config : ActorConfig) : Prop where
  /-- The pump begins in a state to which moves have led, -/
  reached : Moves first start
  /-- it is not nested in another, -/
  outermost : start.pumping = false
  /-- and no pass is under way. -/
  idle : start.Idle
  /-- It returns. -/
  pumped : ∃ handled, (engine (depth + 1)).pump start = .ok handled last
  /-- After some rounds the actor receives the request, -/
  sofar : (engine depth).Rounds { start with pumping := true } now
  /-- which is no failure: -/
  request : turn.event.name ≠ errorEvent
  /-- it carries the correlation of an ask, -/
  carries : turn.event.correlation = some correlation
  /-- which was asked -/
  asked : .asked correlation ask ∈ now.journal
  /-- by who sent the request. -/
  source : turn.event.source = some ask.asker
  /-- The pass serves it. -/
  serves : (engine depth).Serves turn.occasion turn.pass turn.start
  /-- The asker can be answered. -/
  hears : now.Hears ask.asker config
  /-- The ask does not time out. -/
  inTime : ∀ ask now, .timedOut correlation ask now ∉ last.journal
  /-- New identifiers are new, -/
  fresh : last.store.supply.Fresh
  /-- and so are new correlations. -/
  distinct : last.correlations.Fresh

/-- An inbox is left to its actor. -/
structure World.InboxLeftTo (before after : World) (inbox actor : Id) : Prop where
  /-- Others push to it, and that is all. -/
  pushed : before.OnlyPushed after inbox
  /-- The messages that are put into it are left to the actor. -/
  messages : ∀ message, before.Newly after (.posted message inbox) →
    before.LeftTo after message actor

/-- The request that an actor receives in a round of a pump has been answered when the pump
returns. -/
structure Engine.Reception.Answered {engine : Engine} {now middle : World}
    (turn : engine.Reception now middle) (last : World) (correlation : Id) (ask : PendingAsk) :
    Prop where
  /-- The ask waits no longer. -/
  settled : last.pending.find? correlation = none
  /-- In a later round the asker has received a success or a failure that carries its correlation,
  and its behavior has run its pass. -/
  received : ∃ (before after : World) (answer : engine.Reception before after),
    engine.Rounds middle before ∧ engine.Rounds after { last with pumping := true } ∧
    answer.actor = ask.asker ∧
    (answer.event.name = successEvent ∨ answer.event.name = errorEvent) ∧
    answer.event.source = some turn.actor ∧ answer.event.correlation = some correlation ∧
    ∃ dispatch worked,
      engine.runPass answer.actor answer.pass answer.start = .ok dispatch worked

/-- In the round of a request, after some steps, a reply is put into the inbox of the asker. -/
structure Occasion.Sends (occasion : Occasion) (now middle : World) (asker : Id)
    (config : ActorConfig) (posting : World) (message : Message) (id : Id) : Prop where
  /-- The message is a reply. -/
  replies : occasion.Replies message
  /-- What happens until it is posted, -/
  early : Steps now posting
  /-- and then. -/
  late : Steps (posting.post asker message).2 middle
  /-- The asker is within its inbox, -/
  reader : posting.Within asker config
  /-- which has its identifier from the supply. -/
  minted : posting.store.supply.Minted config.inbox
  /-- The message is listed there, -/
  posted : posting.Posted asker message id config.inbox (posting.post asker message).2
  /-- and the supply goes on. -/
  supply : (posting.post asker message).2.store.supply = posting.store.supply.advance
  /-- What it goes on with is new. -/
  fresh : posting.store.supply.advance.Fresh

namespace Inquiry

variable {depth : Nat} {first start now middle last : World}
variable {turn : (engine depth).Reception now middle} {correlation : Id} {ask : PendingAsk}
variable {config : ActorConfig}
variable (inquiry : Inquiry depth first start now middle last turn correlation ask config)

include inquiry

/-- The rounds that are left when the request has been received. -/
lemma rounds :
    (engine depth).Rounds middle { last with pumping := true } ∧ last.ready.order = [] := by
  obtain ⟨handled, pumped⟩ := inquiry.pumped
  exact Engine.pump_rounds inquiry.outermost pumped (inquiry.sofar.tail turn.toRound)

/-- The records of what happens from then on. -/
lemma records : middle.Records { last with pumping := true } := by
  obtain ⟨later, -⟩ := Engine.Rounds.bySteps (engine_bySteps depth) inquiry.rounds.1
  exact Steps.records later

/-- The actors are being served when the request is received, and none of them is busy. -/
lemma between : now.pumping = true ∧ now.Idle := by
  obtain ⟨-, nests⟩ := Engine.Rounds.bySteps (engine_bySteps depth) inquiry.sofar
  exact ⟨nests.pumping, nests.idle inquiry.idle⟩

lemma moves : Moves first now := by
  obtain ⟨steps, -⟩ := Engine.Rounds.bySteps (engine_bySteps depth) inquiry.sofar
  exact inquiry.reached.trans (Steps.moves (.head (.pump start true) steps))

/-- The inbox of the asker is no new object. -/
lemma minted (begins : first.Begins) : now.store.supply.Minted config.inbox := by
  obtain ⟨object, items, read, -⟩ := inquiry.hears.lists
  exact inquiry.moves.stocked begins.stocked _ (read ▸ rfl)

/-- What is made in the round of the request is not taken in it. -/
lemma untaken (begins : first.Begins) {message : Id}
    (unmade : ¬ now.store.supply.Minted message) : middle.Untaken message := by
  intro actor home position entry mem
  obtain ⟨steps, -⟩ := Engine.Round.bySteps (engine_bySteps depth) turn.toRound
  obtain ⟨notes, journal⟩ := (Steps.records steps).journal
  rw [← journal] at mem
  rcases List.mem_append.1 mem with late | early
  · obtain ⟨other, -, which⟩ := Engine.Round.taking (engine_encloses depth).1 inquiry.between.1
      turn.toRound ⟨notes, journal.symm, late⟩
    obtain ⟨value, there, -⟩ := Option.bind_eq_some_iff.1 other.stored
    exact unmade (which ▸ inquiry.moves.stocked begins.stocked _ (there ▸ rfl))
  · exact unmade (inquiry.moves.minted_of_taken begins.stocked begins.journal early)

/-- The reply is put into the inbox of the asker. -/
lemma sends (begins : first.Begins) (left : now.InboxLeftTo last config.inbox ask.asker) :
    ∃ posting message id, turn.occasion.Sends now middle ask.asker config posting message id := by
  obtain ⟨running, found, -⟩ := inquiry.hears.reader
  obtain ⟨message, posting, replies, early, late⟩ := turn.replies (engine_bySteps depth)
    inquiry.serves inquiry.source inquiry.request (Option.isSome_iff_exists.2 ⟨running, found⟩)
  have before := Steps.records early
  have post := Steps.records (.single (.post posting ask.asker message))
  have rest := (Steps.records late).trans inquiry.records
  obtain ⟨asker, there, -⟩ :=
    ((StepsOrBreaks.changes (Steps.stepsOrBreaks early)).routes config.inbox).kept ask.asker
      running found
  have supply := post_supply there message
  have fresh : posting.store.supply.advance.Fresh :=
    supply ▸ Supply.Fresh.of_leads inquiry.fresh rest.supply
  -- nobody takes entries from the inbox before, so the asker cannot be ahead of it
  have old := (inquiry.minted begins).not_mints (fresh.of_leads (Supply.leads_advance _))
    before.supply
  have reader : posting.Within ask.asker config := inquiry.hears.toWithin.steps early
    (left.pushed.of_suffix (List.suffix_refl _) (post.journal.trans rest.journal)) old
  have minted := (inquiry.minted begins).of_leads before.supply
  obtain ⟨id, posted⟩ := reader.posted (early.grows.locked ▸ inquiry.hears.free)
    (minted.ne_next fresh) message
  exact ⟨posting, message, id, replies, early, late, reader, minted, posted, supply, fresh⟩

variable {posting : World} {message : Message} {id : Id}

/-- When the reply has been put into the inbox, both are left to the asker until the pump
returns. -/
lemma undisturbed (left : now.InboxLeftTo last config.inbox ask.asker)
    (sends : turn.occasion.Sends now middle ask.asker config posting message id) :
    (posting.post ask.asker message).2.Undisturbed { last with pumping := true } ask.asker
      config.inbox id := by
  have before := Steps.records sends.early
  have post := Steps.records (.single (.post posting ask.asker message))
  have rest := (Steps.records sends.late).trans inquiry.records
  have journal := before.journal.trans post.journal
  have noted : now.Newly last (.posted id config.inbox) :=
    Newly.right (Newly.left before.journal ((newly_iff [_, _] sends.posted.notes).2
      List.mem_cons_self)) rest.journal
  have made : (posting.post ask.asker message).2.store.supply.Minted id := by
    rw [sends.supply, sends.posted.new]
    exact posting.store.supply.minted_next
  exact {
    toLeftTo := (left.messages id noted).of_suffix journal (List.suffix_refl _)
    pushed := left.pushed.of_suffix journal (List.suffix_refl _)
    oldInbox := (sends.minted.of_leads post.supply).not_mints inquiry.fresh rest.supply
    oldMessage := made.not_mints inquiry.fresh rest.supply }

/-- The asker takes the reply in a round of the pump: otherwise it would still lie there when nobody
is queued any more. -/
lemma taken (begins : first.Begins) (left : now.InboxLeftTo last config.inbox ask.asker) :
    ∃ (message : Message) (before after : World) (taking : (engine depth).Taking before after),
      turn.occasion.Replies message ∧ (engine depth).Rounds middle before ∧
      (engine depth).Rounds after { last with pumping := true } ∧ taking.actor = ask.asker ∧
      taking.due.entry = Entry.pending ask.asker message := by
  have bySteps := engine_bySteps depth
  obtain ⟨posting, message, id, sends⟩ := inquiry.sends begins left
  have undisturbed := inquiry.undisturbed left sends
  have before := Steps.records sends.early
  have within := Steps.records sends.late
  -- the reply lies there when the round of the request is over, and the asker is queued
  have other : id ≠ config.inbox := sends.posted.new ▸ (sends.minted.ne_next sends.fresh).symm
  have untaken := inquiry.untaken begins fun early =>
    (early.of_leads before.supply).ne_next sends.fresh sends.posted.new
  have lies := (sends.posted.lies sends.reader other).steps sends.late
    (undisturbed.between (.refl _) inquiry.records) untaken
  obtain ⟨running, found, -⟩ := sends.reader.reader
  have queued := sends.posted.wakes (Option.isSome_iff_exists.2 ⟨running, found⟩)
  have posted : Steps now (posting.post ask.asker message).2 :=
    .tail sends.early (.post posting ask.asker message)
  have awake := ((begins.awake.toAmong fun _ => False).moves
    (inquiry.moves.trans (Steps.moves posted))).of_queued queued
  -- so it is taken in a round
  obtain ⟨rounds, served⟩ := inquiry.rounds
  obtain ⟨pumping, idle⟩ := inquiry.between
  obtain ⟨-, round⟩ := Engine.Round.bySteps bySteps turn.toRound
  obtain ⟨later, nests⟩ := Engine.Rounds.bySteps bySteps rounds
  rcases lies.rounds bySteps (engine_encloses depth).1 rounds (round.pumping.trans pumping)
      (undisturbed.between within (.refl _)) untaken with
    still | ⟨before, after, taking, early, late, who, -, entry⟩
  · exact absurd served (still.not_served (awake.calm (Steps.calm (sends.late.trans later)))
      ((round.trans nests).idle idle))
  · exact ⟨message, before, after, taking, sends.replies, early, late, who, entry⟩

/-- A reply that is taken is received: the ask has not timed out, and the asker hears. -/
lemma received {before after : World} (begins : first.Begins)
    (taking : (engine depth).Taking before after) (replies : turn.occasion.Replies message)
    (early : (engine depth).Rounds middle before)
    (late : (engine depth).Rounds after { last with pumping := true })
    (who : taking.actor = ask.asker) (entry : taking.due.entry = Entry.pending ask.asker message) :
    ({ before with ready := taking.ready } : World).fate taking.actor taking.due =
      .received ⟨message.type, Inbox.keyed taking.due.message message.payload, message.source,
        message.correlation⟩ := by
  have bySteps := engine_bySteps depth
  obtain ⟨sofar, nests⟩ := Engine.Rounds.bySteps bySteps (.head turn.toRound early)
  obtain ⟨rest, later⟩ := Engine.Rounds.bySteps bySteps (.head taking.toRound late)
  have distinct : ({ last with pumping := true } : World).correlations.Fresh := inquiry.distinct
  have once : before.AskedOnce := begins.once.moves
    (inquiry.moves.trans (Steps.moves sofar))
    (distinct.of_leads (Moves.correlations (Steps.moves rest)))
  have untracked : before.expired.find? correlation = none := by
    refine Option.eq_none_iff_forall_ne_some.2 fun tracked found => ?_
    obtain ⟨ask, time, noted⟩ := once.expired _ _ found
    exact inquiry.inTime ask time (later.journal.subset noted)
  have own : taking.due.running.config = config := by
    obtain ⟨running, found, same, -⟩ := inquiry.hears.reader
    obtain ⟨asker, there, kept⟩ := nests.kept _ _ found
    obtain ⟨found', -⟩ := due?_eq_some.1 taking.waits
    rw [who] at found'
    rw [Option.some.inj (found'.symm.trans there), kept.config, same]
  rw [who]
  refine inquiry.hears.received replies ?_ ?_ own entry (replies.carries.trans inquiry.carries) ?_
  · exact nests.config
  · exact nests.schemas
  · exact untracked

/-- The asker receives the answer, and the ask waits no longer. -/
lemma answered (begins : first.Begins) (left : now.InboxLeftTo last config.inbox ask.asker) :
    turn.Answered last correlation ask := by
  have bySteps := engine_bySteps depth
  obtain ⟨message, before, after, taking, replies, early, late, who, entry⟩ :=
    inquiry.taken begins left
  let answer : (engine depth).Reception before after :=
    ⟨taking, _, inquiry.received begins taking replies early late who entry⟩
  have carries : message.correlation = some correlation := replies.carries.trans inquiry.carries
  have type : message.type = successEvent ∨ message.type = errorEvent :=
    replies.tells.imp And.left And.left
  -- the answer is accepted when it is received, and then nothing waits for it any more
  obtain ⟨sofar, nests⟩ := Engine.Rounds.bySteps bySteps (.head turn.toRound early)
  have moves := inquiry.moves.trans (Steps.moves sofar)
  have rest := (answer.steps_rest bySteps).trans (Engine.Rounds.bySteps bySteps late).1
  have distinct : ({ last with pumping := true } : World).correlations.Fresh := inquiry.distinct
  have fresh := distinct.of_leads (Moves.correlations (Steps.moves rest))
  have start := fresh.of_leads (Moves.correlations (Steps.moves answer.steps_start))
  have shut := answer.shut (begins.apart.moves moves start) (begins.once.moves moves start) fresh
    (nests.journal.subset inquiry.asked) who.symm (entry ▸ carries) (entry ▸ type)
  obtain ⟨dispatch, worked, ran, -⟩ := answer.exists_worked
  exact ⟨(shut.moves (Steps.moves rest) distinct).closed, before, after, answer,
    early, late, who, type, replies.source, carries, dispatch, worked, ran⟩

end Inquiry

/-! ## Requests and answers -/

/-- What the messages carry that an engine sends for a pass. -/
structure Engine.Stamping (engine : Engine) : Prop where
  /-- What an actor tells when it handles an event carries the correlation of the event, if it has
  one; what it asks has a new one, and waits. -/
  work : ∀ (behavior : Behavior) (actor : Actor) (memory : Memory) (event : Event)
    {world middle : World} {target : Id} {message : Message}
    {next : Except ActionError Id → Pass (Option (Activation × Dispatch))},
    engine.GetsTo actor.id (behavior.work actor memory event) world
      (.deliver target message next) middle →
    middle.Conveys actor.id (· = event.correlation) True target message
  /-- An ask asks and tells nothing, and every other action tells and asks nothing. -/
  action : ∀ (activation : Activation) (occasion : Occasion) (action : Action)
    {world middle : World} {target : Id} {message : Message}
    {next : Except ActionError Id → Pass (Except ActionError Activation.Step)},
    engine.GetsTo occasion.actor.id (activation.perform occasion action) world
      (.deliver target message next) middle →
    middle.Conveys occasion.actor.id
      (fun carried => ¬ action.IsAsk ∧ carried = occasion.event.correlation) action.IsAsk
      target message
  /-- When an action fails, that is told with the correlation of the event. -/
  failed : ∀ (activation : Activation) (occasion : Occasion) (error : ActionError)
    {world middle : World} {target : Id} {message : Message}
    {next : Except ActionError Id → Pass Activation.Step},
    engine.GetsTo occasion.actor.id (activation.failed occasion error) world
      (.deliver target message next) middle →
    middle.Conveys occasion.actor.id (· = occasion.event.correlation) False target message
  /-- When all actions are done, nothing is asked any more; what an actor tells then it tells itself,
  and it carries no correlation. -/
  conclude : ∀ (behavior : Behavior) (actor : Actor) (event : Event)
    (outcome : Option (Activation × Dispatch)) {world middle : World} {target : Id}
    {message : Message} {next : Except ActionError Id → Pass Dispatch},
    engine.GetsTo actor.id (behavior.conclude actor event outcome) world
      (.deliver target message next) middle →
    target = actor.id ∧ middle.Conveys actor.id (· = none) False target message
  /-- An actor that starts has no event to answer. -/
  start : ∀ (behavior : Behavior) (actor : Actor) (memory : Memory) {world middle : World}
    {target : Id} {message : Message} {next : Except ActionError Id → Pass Unit},
    engine.GetsTo actor.id (behavior.start actor memory) world
      (.deliver target message next) middle →
    middle.Conveys actor.id (· = none) True target message

/-- Every engine stamps what it sends. -/
lemma Engine.stamping (engine : Engine) : engine.Stamping where
  work behavior actor memory event _ _ _ _ _ gets :=
    gets.conveys (behavior.work_stamps actor memory event)
  action activation occasion action _ _ _ _ _ gets :=
    gets.conveys (activation.perform_stamps occasion action)
  failed activation occasion error _ _ _ _ _ gets :=
    gets.conveys (activation.failed_stamps occasion error)
  conclude behavior actor event outcome _ _ _ _ _ gets :=
    ⟨(gets.only (behavior.conclude_writesOrTells actor event outcome)).1,
      gets.conveys (behavior.conclude_stamps actor event outcome)⟩
  start behavior actor memory _ _ _ _ _ gets := gets.conveys (behavior.start_stamps actor memory)

/-- **Request and reply belong together.**  Whatever a pass tells carries the correlation of its
event, and whatever it asks has a new one, under which it waits.  So a request that is served in a
pump is answered: when the pump returns, the ask waits no longer, and who asked has received a
success or a failure that carries its correlation, if its inbox was left to it. -/
theorem Inquiry.replies_arrive (settings : Config) {supply : Supply} {image : StoreImage}
    (correlations : Supply) (clock : Clock)
    (minted : ∀ id, (image.objects.find? id).isSome → supply.Minted id) :
    (∀ engine : Engine, engine.Stamping) ∧
    ∀ {depth : Nat} {start now middle last : World} {turn : (engine depth).Reception now middle}
      {correlation : Id} {ask : PendingAsk} {config : ActorConfig},
      Inquiry depth (World.new settings (Store.ofImage supply image) correlations clock)
        start now middle last turn correlation ask config →
      now.InboxLeftTo last config.inbox ask.asker → turn.Answered last correlation ask :=
  ⟨Engine.stamping, fun inquiry left =>
    inquiry.answered (begins_new minted settings correlations clock) left⟩

namespace Sample

/-- A tool that answers. -/
def echo : Tool := ⟨⟨"echo", "", .empty⟩, fun _ payload => .done (.ok payload)⟩

/-- A saved store with an actor that asks another one when it is told to; what the other one does
about it is left open. -/
def inquirers (handler : List Json) : StoreImage where
  objects := Table.ofList
    [(.ofNat 1, .obj [("entries", .arr [.id (.ofNat 4)])]), (.ofNat 2, .empty),
      (actor, ActorConfig.toJson
        ⟨["ERROR", "GO", "SUCCESS"], .ofNat 1, .ofNat 2,
          .record [("kind", .str "process"), ("handlers", .record [("GO", .arr [.record
            [("ask", .record [("target", .id other), ("type", .str "PING")])]])])],
          none, ∅, Table.ofList [("GO", .bool true)]⟩),
      (.ofNat 4, (Entry.pending actor { type := "GO", payload := .empty }).toJson),
      (.ofNat 6, .obj [("entries", .arr [])]), (.ofNat 7, .empty),
      (other, ActorConfig.toJson
        ⟨["PING"], .ofNat 6, .ofNat 7,
          .record [("kind", .str "process"), ("handlers", .record [("PING", .arr handler)])],
          some "echo", ∅, Table.ofList [("PING", .bool true)]⟩)]
  keys := ∅

/-- A runtime over that store. -/
def inquiring (handler : List Json) : World :=
  World.new {} (Store.ofImage ⟨.ofNat, 10⟩ (inquirers handler)) ⟨.ofNat, 0⟩ ⟨0, 1000⟩

/-- What the other one has to do: run its tool. -/
def calling : Json := .record [("function", .empty)]

/-- A store operation that takes all entries from the inbox of who asks. -/
def emptying : Json :=
  .record [("op", .record [("update", .record
    [("id", .id (.ofNat 1)), ("patch", .record [("entries", .arr [])])])])]

/-- Whether the actor that asks can be answered. -/
def listens (world : World) : Bool :=
  (world.running.find? actor).any fun running =>
    running.config.inbox == .ofNat 1 &&
    decide (running.cursor ≤ (Inbox.listed world.store (.ofNat 1)).length) &&
    !world.store.locked.contains (.ofNat 1) &&
    ((world.store.read (.ofNat 1)).any fun object =>
      (Store.listIn (.ofNat 1) object Inbox.entriesField).isOk) &&
    running.config.accepts successEvent && running.config.accepts errorEvent &&
    !running.config.schemas.contains successEvent && !running.config.schemas.contains errorEvent

/-- Whether no action of a list asks. -/
def asksNothing (actions : List Action) : Bool := actions.all fun action => !(action matches .ask _)

/-- The state in which the pass over a due entry begins. -/
def begins (now : World) (second : Id) (due : Due) : World :=
  ((due.busy second now).acceptReply second due.message due.entry).2

/-- Whether an event is the request, and its handler stops and does not ask. -/
def requests (now : World) (second : Id) (due : Due) : Fate → Bool
  | .received event => event.name == "PING" && event.correlation == some (.ofNat 0) &&
    event.source == some actor &&
      match due.running.behavior with
      | .process definition _ => (definition.handlers.find? "PING").any fun actions =>
        asksNothing actions &&
        definition.named.lists.entries.all (fun entry => asksNothing entry.2) &&
        ((engine 5).runPass second ((Activation.ofContext ((begins now second due).store.read
          due.running.config.context)).run ⟨⟨second, due.running.config⟩, definition.named, event⟩
            actions)).returns (fun step _ => step.1 matches .stop) (begins now second due)
      | _ => false
  | _ => false

/-- Whether an actor asks in the first round of a pump, and the other one receives the request in
the second. -/
def asks (start : World) : Bool :=
  start.ready.pop?.any fun (first, ready) =>
    ((engine 5).drain first).returns (fun _ now =>
      listens now && (now.pending.find? (.ofNat 0)).any (fun ask => ask.asker == actor) &&
      now.ready.pop?.any fun (second, ready) =>
        (({ now with ready } : World).due? second).any fun due =>
          requests { now with ready } second due (({ now with ready } : World).fate second due) &&
          ((engine 5).drain second).returns (fun did _ => did) { now with ready })
      { start with pumping := true, ready }

/-- Whether a pump returns in which an actor asks, in a state that passes a test and in which no ask
has timed out. -/
def pumps (test : World → Bool) (start : World) : Bool :=
  asks start && (engine 6).pump.returns (fun _ last =>
    last.journal.all (fun note => !(note matches .timedOut ..)) &&
    decide (last.store.supply.made ≤ 20) && decide (last.correlations.made ≤ 20) && test last) start

/-- An actor that listens can be answered. -/
lemma hears_of_listens {world : World} (settings : world.config = {})
    (schemas : world.schemas = .initial world.config.mutationEvent) (passed : listens world) :
    ∃ config, config.inbox = .ofNat 1 ∧ world.Hears actor config := by
  simp only [listens, Option.any_eq_true, Bool.and_eq_true, beq_iff_eq, decide_eq_true_eq,
    Bool.not_eq_true', List.contains_eq_mem, decide_eq_false_iff_not] at passed
  obtain ⟨running, found, ⟨⟨⟨⟨⟨⟨inbox, cursor⟩, free⟩, object, read, listed⟩, success⟩, error⟩,
    success'⟩, error'⟩ := passed
  have lists : world.store.Lists (.ofNat 1) := by
    cases items : Store.listIn (.ofNat 1) object Inbox.entriesField with
    | ok items' => exact ⟨object, items', read, items⟩
    | error cause => simp [items, Except.isOk, Except.toBool] at listed
  have mutation : world.config.mutationEvent ≠ successEvent ∧
      world.config.mutationEvent ≠ errorEvent := by
    rw [settings]
    decide
  have within : world.Within actor running.config :=
    ⟨⟨running, found, rfl, inbox ▸ cursor⟩, inbox ▸ lists⟩
  exact ⟨running.config, inbox, within.hears (inbox ▸ free) schemas mutation success error
    (Table.find?_of_not_contains success') (Table.find?_of_not_contains error')⟩

lemma not_reaches_ask {named : NamedActions} {actions : List Action} (own : asksNothing actions)
    (lists : named.lists.entries.all fun entry => asksNothing entry.2) (send : SendAction) :
    ¬ named.Reaches actions (.ask send) := by
  rintro ⟨list, leads, mem⟩
  have silent : ∀ action ∈ list, (!(action matches .ask _)) = true := by
    refine leads.forall_mem (List.all_eq_true.1 own) fun name next found => ?_
    exact List.all_eq_true.1 (List.all_eq_true.1 lists (name, next) (Table.mem_entries.2 found))
  cases silent _ mem

/-- Who receives the request serves it. -/
lemma serves_of_requests {before after : World} (turn : (engine 5).Reception before after)
    (requested : requests { before with ready := turn.ready } turn.actor turn.due
      (.received turn.event)) :
    (engine 5).Serves turn.occasion turn.pass turn.start ∧ turn.event.name = "PING" ∧
      turn.event.correlation = some (.ofNat 0) ∧ turn.event.source = some actor := by
  simp only [requests, Bool.and_eq_true, beq_iff_eq] at requested
  obtain ⟨⟨⟨name, correlation⟩, source⟩, handler⟩ := requested
  refine ⟨?_, name, correlation, source⟩
  unfold Engine.Reception.pass Engine.Reception.occasion
  cases behavior : turn.due.running.behavior with
  | machine => simp [behavior] at handler
  | process definition suppressed =>
    simp only [behavior, Option.any_eq_true, Bool.and_eq_true] at handler
    obtain ⟨actions, found, ⟨own, lists⟩, stopped⟩ := handler
    obtain ⟨⟨flow, last⟩, after, ran, stops⟩ := Run.exists_of_returns _ _ _ stopped
    cases flow with
    | proceed => cases stops
    | stop => exact Engine.serves_of_handler (name ▸ found) (not_reaches_ask own lists) ran

/-- In a pump, an actor asks, and the request is received and served. -/
lemma exists_reception {start : World} (asked : asks start) :
    ∃ (now middle : World) (turn : (engine 5).Reception now middle) (ask : PendingAsk),
      (engine 5).Rounds { start with pumping := true } now ∧ listens now ∧
      now.pending.find? (.ofNat 0) = some ask ∧ ask.asker = actor ∧
      (engine 5).Serves turn.occasion turn.pass turn.start ∧ turn.event.name = "PING" ∧
      turn.event.correlation = some (.ofNat 0) ∧ turn.event.source = some actor := by
  simp only [asks, Option.any_eq_true] at asked
  obtain ⟨⟨first, ready⟩, next, asked⟩ := asked
  obtain ⟨did, now, drained, asked⟩ := Run.exists_of_returns _ _ _ asked
  simp only [Bool.and_eq_true, Option.any_eq_true, beq_iff_eq] at asked
  obtain ⟨⟨listens, ask, waits, asker⟩, ⟨second, rest⟩, next', due, due', requested, returned⟩ :=
    asked
  obtain ⟨did', middle, drained', rfl⟩ := Run.exists_of_returns _ _ _ returned
  cases fate : ({ now with ready := rest } : World).fate second due with
  | received event =>
    let turn : (engine 5).Reception now middle :=
      ⟨⟨second, rest, due, next', due', drained'⟩, event, fate⟩
    exact ⟨now, middle, turn, ask, .single ⟨first, ready, did, next, drained⟩, listens, waits, asker,
      serves_of_requests turn (fate ▸ requested)⟩
  | _ => simp [fate, requests] at requested

/-- A few identifiers are new. -/
lemma fresh_of_few {supply : Supply} (mint : supply.mint = .ofNat) (made : supply.made ≤ 20) :
    supply.Fresh := by
  have distinct : ∀ i < 20, ∀ j < 20, Id.ofNat i = Id.ofNat j → i = j := by decide
  intro i j hi hj same
  rw [mint] at same
  exact distinct i (Nat.lt_of_lt_of_le hi made) j (Nat.lt_of_lt_of_le hj made) same

/-- The actor is started, it asks, and the pump returns. -/
lemma exists_inquiry (handler : List Json) (test : World → Bool)
    (passed : ((engine 2).spawn actor).returns (fun _ start => pumps test start)
      { inquiring handler with tools := ToolRegistry.register {} echo }) :
    ∃ (start now middle last : World) (turn : (engine 5).Reception now middle) (ask : PendingAsk)
      (config : ActorConfig),
      Inquiry 5 (inquiring handler) start now middle last turn (.ofNat 0) ask config ∧
        ask.asker = actor ∧ config.inbox = .ofNat 1 ∧ test last := by
  obtain ⟨answer, start, spawned, passed⟩ := Run.exists_of_returns _ _ _ passed
  obtain ⟨begun, nests⟩ := ((engine_bySteps 2).spawn actor _).ok spawned
  simp only [pumps, Bool.and_eq_true] at passed
  obtain ⟨asked, pumped⟩ := passed
  obtain ⟨handled, last, pump, tested⟩ := Run.exists_of_returns _ _ _ pumped
  simp only [Bool.and_eq_true, List.all_eq_true, decide_eq_true_eq] at tested
  obtain ⟨⟨⟨inTime, made⟩, asks⟩, tested⟩ := tested
  obtain ⟨now, middle, turn, ask, sofar, listens, waits, asker, serves, name, carries, source⟩ :=
    exists_reception asked
  -- how the pump is reached, how the request, and how the end
  have outermost : start.pumping = false := nests.pumping
  have reached : Moves (inquiring handler) start :=
    .head (.inr (.setTools _ _)) (Steps.moves begun)
  obtain ⟨early, within⟩ := Engine.Rounds.bySteps (engine_bySteps 5) sofar
  have moves := reached.trans (Steps.moves (.head (.pump start true) early))
  obtain ⟨later, -⟩ := Engine.Rounds.bySteps (engine_bySteps 5)
    (Engine.pump_rounds outermost pump sofar).1
  have ends := moves.trans (Steps.moves later)
  have fresh : last.store.supply.Fresh := fresh_of_few (Moves.supplies ends).supply.mint made
  have distinct : ({ last with pumping := true } : World).correlations.Fresh :=
    fresh_of_few (Moves.correlations ends).mint asks
  have once : now.AskedOnce := (AskedOnce.first _ _ _ _).moves moves
    (distinct.of_leads (Moves.correlations (Steps.moves later)))
  obtain ⟨config, inbox, hears⟩ := hears_of_listens (within.config.trans nests.config)
    (by rw [within.schemas, within.config]; exact nests.schemas.trans (by rw [nests.config]; rfl))
    listens
  exact ⟨start, now, middle, last, turn, ask, config,
    { reached
      outermost
      idle := nests.idle fun _ _ found => by cases found
      pumped := ⟨handled, pump⟩
      sofar
      request := name ▸ by decide
      carries
      asked := once.pending _ _ waits
      source := asker ▸ source
      serves
      hears := asker ▸ hears
      inTime := fun ask time mem => by simpa using inTime _ mem
      fresh
      distinct }, asker, inbox, tested⟩

/-- Whether a note agrees with the inbox of the actor that asks, and the reply in it, being left to
that actor. -/
def leaves : Note → Bool
  | .wrote object _ => object == .ofNat 2 || object == .ofNat 7
  | .posted id home => home == .ofNat 6 || home == .ofNat 1 && id == .ofNat 11
  | .taken taker _ _ message _ => taker == actor || message != .ofNat 11
  | _ => true

lemma inboxLeftTo_of_leaves {before after : World} (left : ∀ note ∈ after.journal, leaves note) :
    before.InboxLeftTo after (.ofNat 1) actor := by
  have noted : ∀ {note}, before.Newly after note → leaves note := by
    rintro note ⟨notes, journal, mem⟩
    exact left note (journal ▸ List.mem_append_left _ mem)
  refine ⟨fun op new => by simpa +decide [leaves] using noted new, fun message new => ?_⟩
  obtain rfl : message = .ofNat 11 := by simpa +decide [leaves] using noted new
  exact ⟨fun op new => by simpa +decide [leaves] using noted new,
    fun id new => by simpa +decide [leaves] using noted new,
    fun taker home position entry new => by simpa [leaves] using noted new⟩

end Sample

/-- The other actor runs its tool, and the answer arrives. -/
theorem Inquiry.reply_arrives :
    ∃ (start now middle last : World) (turn : (engine 5).Reception now middle) (ask : PendingAsk)
      (config : ActorConfig),
      Inquiry 5 (Sample.inquiring [Sample.calling]) start now middle last turn (.ofNat 0) ask
        config ∧
      now.InboxLeftTo last config.inbox ask.asker ∧ turn.Answered last (.ofNat 0) ask := by
  obtain ⟨start, now, middle, last, turn, ask, config, inquiry, asker, inbox, left⟩ :=
    Sample.exists_inquiry [Sample.calling] (fun last => last.journal.all Sample.leaves)
      (by decide +kernel)
  have left : now.InboxLeftTo last config.inbox ask.asker := by
    rw [asker, inbox]
    exact Sample.inboxLeftTo_of_leaves (List.all_eq_true.1 left)
  have minted : ∀ id, ((Sample.inquirers [Sample.calling]).objects.find? id).isSome →
      (⟨.ofNat, 10⟩ : Supply).Minted id := by
    have all : ∀ entry ∈ (Sample.inquirers [Sample.calling]).objects.entries,
        ∃ n < 10, Id.ofNat n = entry.1 := by decide +kernel
    intro id there
    obtain ⟨value, found⟩ := Option.isSome_iff_exists.1 there
    exact all _ (Table.mem_entries.2 found)
  exact ⟨start, now, middle, last, turn, ask, config, inquiry, left,
    (Inquiry.replies_arrive {} ⟨.ofNat, 0⟩ ⟨0, 1000⟩ minted).2 inquiry left⟩

/-- Whether a note is of a message that was put into the inbox of the actor that asks. -/
def Sample.arrives : Note → Bool
  | .posted _ home => home == .ofNat 1
  | _ => false

lemma Sample.posted_of_arrives {note : Note} (passed : arrives note) :
    ∃ id, note = .posted id (.ofNat 1) := by
  cases note with
  | posted id home =>
    obtain rfl : home = .ofNat 1 := by simpa [arrives] using passed
    exact ⟨id, rfl⟩
  | _ => cases passed

/-- If the other actor takes all entries from the inbox of who asks before it runs its tool, the
asker misses the reply that is put there, since it has come further already; it goes on to wait. -/
theorem Inquiry.misses_reply :
    ∃ (start now middle last : World) (turn : (engine 5).Reception now middle) (ask : PendingAsk)
      (config : ActorConfig),
      Inquiry 5 (Sample.inquiring [Sample.emptying, Sample.calling]) start now middle last turn
        (.ofNat 0) ask config ∧
      last.running.contains ask.asker ∧ (∃ reply, .posted reply config.inbox ∈ last.journal) ∧
      (last.pending.find? (.ofNat 0)).isSome ∧ ¬ turn.Answered last (.ofNat 0) ask := by
  obtain ⟨start, now, middle, last, turn, ask, config, inquiry, asker, inbox, missed⟩ :=
    Sample.exists_inquiry [Sample.emptying, Sample.calling]
      (fun last => last.running.contains Sample.actor && last.journal.any Sample.arrives &&
        (last.pending.find? (.ofNat 0)).isSome) (by decide +kernel)
  simp only [Bool.and_eq_true, List.any_eq_true] at missed
  obtain ⟨⟨runs, note, mem, arrives⟩, waits⟩ := missed
  obtain ⟨reply, rfl⟩ := Sample.posted_of_arrives arrives
  refine ⟨start, now, middle, last, turn, ask, config, inquiry, asker ▸ runs,
    ⟨reply, inbox ▸ mem⟩, waits, fun answered => ?_⟩
  rw [answered.settled] at waits
  cases waits

end Troupe
