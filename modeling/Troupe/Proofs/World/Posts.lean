import Troupe.Proofs.World.Admission
import Troupe.Proofs.World.Notices
import Troupe.Proofs.World.Unstarted

/-!
# What a post leaves behind

A post makes the message and then lists it in the inbox of its target.  It may fail before the
first write, when no inbox is known for the target, and between the two, when the inbox is missing,
protected or malformed.  In the first case nothing is written, in the second the message stays
behind and no inbox lists it; in both nobody is queued or started.  A post that succeeds has
appended the message, even if its target does not run and cannot be started: then the message waits.

## Main results

* `World.post_appended`: what a post does that succeeds;
* `World.post_withheld`: what a post does that fails;
* `World.Awaits.awaitsStart`: what becomes of a message whose target does not run;
* `World.post_ends`: all of it, whatever the engine;
* `World.PostEnds.of_ok`, `World.PostEnds.of_error`: what is known of a post that has returned.
-/

namespace Troupe

open Relation

namespace Store

variable {id : Id} {object : Json} {field : String} {items : List Json}

/-- A record has a list in a field if the field holds it; without the field the list is empty. -/
lemma listIn_eq_ok : listIn id object field = .ok items ↔ object.isObject = true ∧
    (object.field? field = none ∧ items = [] ∨ object.field? field = some (.arr items)) := by
  cases object with
  | obj fields =>
    rw [Json.field?_obj, listIn]
    cases Assoc.find? field fields with
    | none => simp [Json.isObject, eq_comm]
    | some value => cases value <;> simp [Json.isObject]
  | _ => simp [listIn, Json.isObject]

end Store

namespace ActorConfig

/-- The inbox that a record names does not depend on its other fields. -/
lemma inboxOf?_setField (record : Json) {name : String} (other : name ≠ "inbox") (content : Json) :
    inboxOf? (record.setField name content) = inboxOf? record := by
  cases record with
  | obj fields =>
    change (Assoc.find? _ (Assoc.insert name content fields)).bind _ = _
    rw [Assoc.find?_insert, if_neg other]
    rfl
  | _ => rfl

end ActorConfig

namespace Inbox

/-- The message of a post is the one object that is made first. -/
lemma read_withMessage (store : Store) (target : Id) (message : Message) (id : Id) :
    (withMessage store target message).read id =
      if store.supply.next = id then some (Entry.pending target message).toJson
      else store.read id :=
  Store.read_put _ _ _ _

/-- A stored message lists nothing, as if it were an inbox. -/
lemma entries_toJson (entry : Entry) : entries entry.toJson = [] := by
  have none : entry.toJson.field? entriesField = none := by
    rw [Entry.field?_toJson]
    simp [entriesField, Assoc.find?_cons]
  rw [entries, none]

end Inbox

namespace World

variable {world before after : World} {target inbox id : Id} {message : Message}

/-! ## What a post does -/

/-- The identifier that is handed out next is new: there is no such object, and nothing refers to
one. -/
structure Unused (world : World) (target : Id) : Prop where
  /-- There is no such object. -/
  unread : world.store.read world.store.supply.next = none
  /-- No inbox lists it, -/
  unlisted : ∀ inbox, world.store.supply.next ∉ Inbox.listed world.store inbox
  /-- it is not the inbox of the target, -/
  unrouted : Inbox.inboxOf (some world.store) (world.liveInbox? target) target ≠
    .ok world.store.supply.next
  /-- nobody listens to it, -/
  unheard : world.store.listeners world.store.supply.next = []
  /-- and nobody has taken it. -/
  untaken : world.Untaken world.store.supply.next

/-- What a post does that succeeds: it makes one object, the message, and appends it to the inbox
of its target. -/
structure Appended (before : World) (target : Id) (message : Message) (id inbox : Id)
    (after : World) : Prop where
  /-- The inbox is that of the target. -/
  home : Inbox.inboxOf (some before.store) (before.liveInbox? target) target = .ok inbox
  /-- The message is a new object, -/
  new : before.store.read id = none
  /-- which reads as an entry for the target that was not handled, with what was sent. -/
  stored : (after.store.read id).bind Entry.ofJson? = some (Entry.pending target message)
  /-- The inbox had a list of entries, or none, and now has one more at the end. -/
  listed : ∃ object items, before.store.read inbox = some object ∧ object.isObject = true ∧
    (object.field? Inbox.entriesField = none ∧ items = [] ∨
      object.field? Inbox.entriesField = some (.arr items)) ∧
    after.store.read inbox =
      some (object.setField Inbox.entriesField (.arr (items ++ [.id id])))
  /-- No other object has changed. -/
  others : ∀ other, other ≠ id → other ≠ inbox →
    after.store.read other = before.store.read other
  /-- The same actors run. -/
  running : after.running = before.running

/-- What a post does that fails: it leaves at most the message behind. -/
structure Withheld (before : World) (target : Id) (message : Message) (after : World) : Prop where
  /-- Every object that there was stays as it was. -/
  kept : ∀ id object, before.store.read id = some object → after.store.read id = some object
  /-- There is at most one new object, which reads as an entry that was not handled, -/
  left : ∀ id, before.store.read id = none → (after.store.read id).isSome →
    id = before.store.supply.next ∧
      (after.store.read id).bind Entry.ofJson? = some (Entry.pending target message)
  /-- and which no inbox lists. -/
  unlisted : ∀ inbox, before.store.supply.next ∉ Inbox.listed after.store inbox
  /-- Nobody has been started, -/
  running : after.running = before.running
  /-- nobody has been queued, -/
  ready : after.ready = before.ready
  /-- and nobody has been told of a write. -/
  notified : after.notified = before.notified

/-- If no call is left to be made, a store is put in place and nothing else happens. -/
lemma withStore_of_settled {store : Store} (settled : store.calls = []) (world : World) :
    world.withStore store = { world with store } := by
  rw [withStore_eq, settled]
  cases store
  cases settled
  simp

/-- The inbox to which a message is appended can be pushed to. -/
lemma lists_of_post (done : (world.post target message).1 = .ok id)
    (routed : Inbox.inboxOf (some world.store) (world.liveInbox? target) target = .ok inbox)
    (other : inbox ≠ world.store.supply.next) :
    ∃ object items, world.store.read inbox = some object ∧
      Store.listIn inbox object Inbox.entriesField = .ok items := by
  rcases Inbox.append_cases world.store inbox target message with
    ⟨answer, store, pushed, -⟩ | ⟨error, refused⟩
  · obtain ⟨object, items, found, listed, -⟩ := Store.push_ok pushed
    rw [Inbox.read_withMessage, if_neg (Ne.symm other)] at found
    exact ⟨object, items, found, listed⟩
  · simp only [post, Inbox.post, routed, refused] at done
    cases done

/-- **A post that succeeds appends one message.** -/
theorem post_appended (unused : world.Unused target)
    (done : (world.post target message).1 = .ok id) :
    ∃ inbox, world.Posted target message id inbox (world.post target message).2 ∧
      world.Appended target message id inbox (world.post target message).2 := by
  obtain ⟨inbox, posted⟩ := post_posted done
  obtain rfl := posted.new
  have other : world.store.supply.next ≠ inbox := fun same =>
    unused.unrouted (same ▸ posted.home)
  obtain ⟨object, items, found, listed⟩ := lists_of_post done posted.home other.symm
  obtain ⟨object', found', now⟩ := posted.listed other
  obtain rfl := Option.some.inj (found.symm.trans found')
  rw [← Store.listIn_eq listed] at now
  obtain ⟨record, either⟩ := Store.listIn_eq_ok.1 listed
  refine ⟨inbox, posted, posted.home, unused.unread, ?_,
    ⟨object, items, found, record, either, now⟩, posted.others, posted.running⟩
  rw [posted.stored other]
  exact Entry.ofJson?_toJson _

/-- **A post that fails leaves at most its message behind.** -/
theorem post_withheld {error : RuntimeError} (unused : world.Unused target)
    (settled : world.store.calls = []) (failed : (world.post target message).1 = .error error) :
    world.Withheld target message (world.post target message).2 := by
  cases routed : Inbox.inboxOf (some world.store) (world.liveInbox? target) target with
  | error error =>
    rw [post_of_error routed, withStore_of_settled settled]
    refine ⟨fun _ _ found => found, fun id missing there => ?_, unused.unlisted, rfl, rfl, rfl⟩
    rw [← Option.not_isSome_iff_eq_none] at missing
    exact absurd there missing
  | ok inbox =>
    rcases Inbox.append_cases world.store inbox target message with
      ⟨answer, store, -, appended⟩ | ⟨error, refused⟩
    · simp only [post, Inbox.post, routed, appended] at failed
      cases failed
    · -- the message was made, and nobody listens to it
      have read := Inbox.read_withMessage world.store target message
      have calls := (Inbox.write_withMessage world.store target message).calls
      rw [unused.unheard, settled] at calls
      rw [post_of_append routed refused, withStore_of_settled calls]
      refine ⟨fun id object found => ?_, fun id missing there => ?_, fun inbox mem => ?_, rfl, rfl,
        rfl⟩
      · refine (read id).trans ((if_neg ?_).trans found)
        rintro rfl
        rw [unused.unread] at found
        cases found
      · dsimp only at there ⊢
        rw [read] at there ⊢
        split at there
        · rename_i same
          exact ⟨same.symm, by rw [if_pos same]; exact Entry.ofJson?_toJson _⟩
        · rw [missing] at there
          cases there
      · rw [Inbox.listed] at mem
        dsimp only at mem
        rw [read] at mem
        split at mem
        · rw [Option.map_some, Inbox.entries_toJson] at mem
          cases mem
        · exact unused.unlisted inbox mem

/-! ## Messages whose target does not run -/

/-- What becomes of a message whose target does not run. -/
structure AwaitsStart (posted : World) (target inbox id : Id) (entry : Entry) : Prop where
  /-- The message waits in the inbox. -/
  awaits : posted.Awaits target inbox id entry
  /-- A start of the target that is refused leaves it there, and everything else as it is. -/
  refused : ∀ depth cause after,
    (engine depth).spawn target posted = .ok (.error cause) after → after = posted
  /-- A later start that succeeds, of the same inbox, has the target take the message, unless it has
  taken it before, if that was left to it meanwhile.  Any commands may come between. -/
  taken : ∀ config supply image correlations clock fuel middle last,
    Session (World.new config (Store.ofImage supply image) correlations clock) middle →
    ReflTransGen (LeavesAlone inbox id) posted middle →
    middle.running.contains target = false →
    middle.NamesInbox target inbox → World.spawn fuel target middle = .ok (.ok ()) last →
    posted.Undisturbed last target inbox id →
    (∃ home position, .taken target home position id entry ∈ middle.journal) ∨
      ∃ position, .taken target inbox position id entry ∈ last.journal
  /-- It has not taken it before, if no command starts the target meanwhile. -/
  untaken : ∀ middle, Steps posted middle → middle.running.contains target = false →
    posted.LeftTo middle id target → middle.Untaken id

lemma Awaits.awaitsStart {entry : Entry} (awaits : world.Awaits target inbox id entry) :
    world.AwaitsStart target inbox id entry where
  awaits := awaits
  refused _ _ _ := Engine.eq_of_spawn_error
  taken config supply image correlations clock fuel middle last session alone stopped named ran
      undisturbed := by
    have early := LeavesAlone.moves alone
    have late := Steps.moves (spawn_steps ran)
    rcases awaits.moves alone (undisturbed.amid .refl late) stopped named with waits | taken
    · exact .inr (session.spawn_takes waits ran (undisturbed.amid early .refl))
    · exact .inl taken
  untaken _ steps stopped left := left.untaken steps stopped awaits.untaken

/-- A message that was appended waits, if its target does not run. -/
lemma Appended.waits (appended : before.Appended target message id inbox after)
    (stopped : before.running.contains target = false)
    (untaken : after.Untaken id) :
    after.Awaits target inbox id (Entry.pending target message) := by
  have home := appended.home
  rw [liveInbox?, Table.find?_of_not_contains stopped] at home
  obtain ⟨record, read, named⟩ := exists_record_of_inboxOf home
  obtain ⟨object, items, found, isRecord, either, now⟩ := appended.listed
  have listed : Store.listIn inbox object Inbox.entriesField = .ok items :=
    Store.listIn_eq_ok.2 ⟨isRecord, either⟩
  have more := Store.listIn_setField listed (items ++ [.id id])
  refine ⟨appended.running ▸ stopped, ?_, ⟨_, _, now, more⟩, ?_, appended.stored, rfl, untaken⟩
  · -- the record may itself be the inbox, but it is not the message
    by_cases same : target = inbox
    · subst same
      obtain rfl := Option.some.inj (read.symm.trans found)
      exact ⟨_, now, (ActorConfig.inboxOf?_setField _ (by decide) _).trans named⟩
    · refine ⟨record, (appended.others target ?_ same).trans read, named⟩
      rintro rfl
      rw [appended.new] at read
      cases read
  · rw [Inbox.listed, now]
    change id ∈ Inbox.entries _
    rw [Store.entries_of_listIn more, List.filterMap_append]
    exact List.mem_append_right _ (by simp [Json.id?_id])

/-! ## All of it -/

/-- How a post ends, whatever the engine is that starts actors. -/
inductive PostEnds (world : World) (target : Id) (message : Message) : Prop
  /-- The message was appended.  If the target runs, it is queued, and the post returns.  If it does
  not, the target is asked to start, and when that returns, the post returns as well, even if the
  start is refused; then the message waits. -/
  | appended (id inbox : Id)
    (appended : world.Appended target message id inbox (world.post target message).2)
    (runs : world.running.contains target = true →
      target ∈ (world.post target message).2.ready.order ∧ ∀ engine : Engine,
        engine.post target message world = .ok (.ok id) (world.post target message).2)
    (stopped : world.running.contains target = false →
      (∀ engine : Engine, engine.post target message world =
        (engine.spawn target >>= fun _ => pure (.ok id) : Run _) (world.post target message).2) ∧
      (world.post target message).2.AwaitsStart target inbox id (Entry.pending target message))
  /-- The message was withheld, and no engine starts anybody. -/
  | withheld (error : RuntimeError)
    (withheld : world.Withheld target message (world.post target message).2)
    (returns : ∀ engine : Engine,
      engine.post target message world = .ok (.error error) (world.post target message).2)

/-- **A post appends exactly one message, or it touches nothing that there was.** -/
theorem post_ends {world : World} {target : Id} (message : Message) (unused : world.Unused target)
    (settled : world.store.calls = []) : world.PostEnds target message := by
  cases done : (world.post target message).1 with
  | error error =>
    refine .withheld error (post_withheld unused settled done) fun engine => ?_
    rw [Engine.post_eq, ← Prod.eta (world.post target message), done]
  | ok id =>
    obtain ⟨inbox, posted, appended⟩ := post_appended unused done
    refine .appended id inbox appended (fun runs => ⟨posted.wakes runs, fun engine => ?_⟩)
      fun stopped => ⟨fun engine => ?_, (appended.waits stopped ?_).awaitsStart⟩
    · rw [Engine.post_eq, ← Prod.eta (world.post target message), done]
      exact if_pos runs
    · rw [Engine.post_eq, ← Prod.eta (world.post target message), done]
      refine (if_neg (by simp [stopped])).trans ?_
      dsimp only
      cases started : engine.spawn target (world.post target message).2 with
      | ok result last =>
        rw [Run.bind_of_ok started]
        rfl
      | error halt last => rw [Run.bind_of_error started]
    · intro other home position found mem
      rw [posted.notes, posted.new] at mem
      simp only [List.mem_cons, reduceCtorEq, false_or] at mem
      exact unused.untaken other home position found mem

section Returned

variable {engine : Engine}

/-- A post that returns an identifier has appended the message under it. -/
lemma PostEnds.of_ok (ends : world.PostEnds target message)
    (ran : engine.post target message world = .ok (.ok id) after) :
    ∃ inbox, world.Appended target message id inbox (world.post target message).2 ∧
      if world.running.contains target then
        after = (world.post target message).2 ∧ target ∈ after.ready.order
      else (∃ outcome, engine.spawn target (world.post target message).2 = .ok outcome after) ∧
        (world.post target message).2.AwaitsStart target inbox id
          (Entry.pending target message) := by
  rcases ends with ⟨made, inbox, appended, runs, stopped⟩ | ⟨error, -, returns⟩
  · by_cases live : world.running.contains target = true
    · obtain ⟨queued, posts⟩ := runs live
      cases (posts engine).symm.trans ran
      exact ⟨inbox, appended, by rw [if_pos live]; exact ⟨rfl, queued⟩⟩
    · obtain ⟨posts, awaits⟩ := stopped (Bool.eq_false_iff.2 live)
      rw [posts] at ran
      obtain ⟨outcome, middle, started, returned⟩ := Run.ok_of_bind ran
      cases returned
      exact ⟨inbox, appended, by rw [if_neg live]; exact ⟨⟨outcome, started⟩, awaits⟩⟩
  · cases (returns engine).symm.trans ran

/-- A post that returns an error has withheld the message, whatever the engine. -/
lemma PostEnds.of_error {error : RuntimeError} (ends : world.PostEnds target message)
    (ran : engine.post target message world = .ok (.error error) after) :
    world.Withheld target message after ∧
      ∀ other : Engine, other.post target message world = .ok (.error error) after := by
  rcases ends with ⟨made, inbox, -, runs, stopped⟩ | ⟨error, withheld, returns⟩
  · by_cases live : world.running.contains target = true
    · cases ((runs live).2 engine).symm.trans ran
    · rw [(stopped (Bool.eq_false_iff.2 live)).1] at ran
      obtain ⟨outcome, middle, -, returned⟩ := Run.ok_of_bind ran
      cases returned
  · cases (returns engine).symm.trans ran
    exact ⟨withheld, returns⟩

end Returned

end World

namespace Sample

/-- A runtime that knows two actors, neither of which runs: the behavior of the one is of no known
kind, and the inbox of the other is missing. -/
def misconfigured : World :=
  World.new {} (Store.ofImage ⟨.ofNat, 20⟩ ⟨Table.ofList
    [(.ofNat 1, .obj [("entries", .arr [])]), (.ofNat 2, .empty),
      (actor, (ActorConfig.toJson
        ⟨["GO"], .ofNat 1, .ofNat 2, .obj [("kind", .str "clock")], none, ∅, ∅⟩)),
      (other, (ActorConfig.toJson
        ⟨["GO"], .ofNat 6, .ofNat 7, .obj [("kind", .str "process")], none, ∅, ∅⟩))], ∅⟩)
    ⟨.ofNat, 0⟩ ⟨0, 1000⟩

/-- The first actor is given a behavior that is known. -/
def mend : StoreOp := .update actor (.obj [("behavior", .obj [("kind", .str "process")])])

/-- A message has been posted to the first actor, which could not be started then, and its record
has been put right. -/
def mended : World := ((misconfigured.post actor go).2.write mend).2

/-- Whether what was noted leaves a message and its inbox to an actor. -/
def leftAlone (actor inbox message : Id) : Note → Bool
  | .wrote object _ => object != inbox && object != message
  | .posted _ home => home != message
  | .taken taker _ _ taken _ => taken != message || taker == actor
  | _ => true

/-- If all that was noted leaves them to the actor and no object was made, they were not
disturbed. -/
lemma undisturbed_of_leftAlone {before after : World} {actor inbox message : Id}
    (left : after.journal.all (leftAlone actor inbox message))
    (none : after.store.supply.made ≤ before.store.supply.made) :
    before.Undisturbed after actor inbox message := by
  have all : ∀ {note}, before.Newly after note → leftAlone actor inbox message note = true := by
    rintro note ⟨notes, journal, mem⟩
    exact List.all_eq_true.1 left _ (journal ▸ List.mem_append_left _ mem)
  have unmade : ∀ id, ¬ before.store.supply.Mints after.store.supply id := by
    rintro id ⟨n, le, lt, -⟩
    omega
  refine ⟨⟨fun op new => ?_, fun other new => ?_, fun other home position entry new => ?_⟩,
    fun op new => ?_, unmade inbox, unmade message⟩
  · simpa [leftAlone] using all new
  · simpa [leftAlone] using all new
  · simpa [leftAlone] using all new
  · simpa [leftAlone] using all new

/-- Nothing refers to the identifier that is next. -/
lemma misconfigured_unused {target : Id}
    (unrouted : Inbox.inboxOf (some misconfigured.store) none target ≠ .ok (.ofNat 20)) :
    misconfigured.Unused target where
  unread := by decide +kernel
  unlisted inbox mem := by
    have unlisted : ∀ entry ∈ misconfigured.store.objects.entries,
        Id.ofNat 20 ∉ Inbox.entries entry.2 := by decide +kernel
    unfold Inbox.listed at mem
    cases found : misconfigured.store.read inbox with
    | none =>
      rw [found] at mem
      cases mem
    | some object =>
      rw [found] at mem
      exact unlisted (inbox, object) (Table.mem_entries.2 found) mem
  unrouted := unrouted
  unheard := rfl
  untaken _ _ _ _ mem := by cases mem

end Sample

/-- A message is posted to an actor that cannot be started; when its record has been put right and
it is started, it takes the message.  One that is posted to an actor without an inbox is left
behind, and nothing else changes. -/
theorem World.post_waits_until_mended :
    Sample.misconfigured.Unused Sample.actor ∧ Sample.misconfigured.Unused Sample.other ∧
    Sample.misconfigured.store.calls = [] ∧
    (∃ id inbox cause position last,
      let posted := (Sample.misconfigured.post Sample.actor Sample.go).2
      Sample.misconfigured.Appended Sample.actor Sample.go id inbox posted ∧
      (engine 2).spawn Sample.actor posted = .ok (.error cause) posted ∧
      (engine 2).post Sample.actor Sample.go Sample.misconfigured = .ok (.ok id) posted ∧
      World.spawn 2 Sample.actor Sample.mended = .ok (.ok ()) last ∧
      .taken Sample.actor inbox position id (Entry.pending Sample.actor Sample.go) ∈
        last.journal) ∧
    ∃ error left, (engine 2).post Sample.other Sample.go Sample.misconfigured =
        .ok (.error error) left ∧
      (left.store.read (.ofNat 20)).isSome ∧
      Sample.misconfigured.Withheld Sample.other Sample.go left := by
  have unused : Sample.misconfigured.Unused Sample.actor :=
    Sample.misconfigured_unused (by decide +kernel)
  have unused' : Sample.misconfigured.Unused Sample.other :=
    Sample.misconfigured_unused (by decide +kernel)
  refine ⟨unused, unused', rfl, ?_, ?_⟩
  · -- the post succeeds although the start is refused
    obtain ⟨answer, after, post, ok⟩ := Run.exists_of_returns
      ((engine 2).post Sample.actor Sample.go) (fun answer _ => answer.isOk)
      Sample.misconfigured (by decide +kernel)
    obtain _ | id := answer
    · cases ok
    obtain ⟨inbox, appended, ends⟩ := (World.post_ends Sample.go unused rfl).of_ok post
    obtain ⟨⟨outcome, started⟩, awaits⟩ := ends
    obtain ⟨answer, last, started', refused⟩ := Run.exists_of_returns
      ((engine 2).spawn Sample.actor) (fun answer _ => !answer.isOk)
      (Sample.misconfigured.post Sample.actor Sample.go).2 (by decide +kernel)
    cases started.symm.trans started'
    obtain cause | _ := outcome
    swap
    · cases refused
    obtain rfl := awaits.refused 2 cause after started
    -- the message is listed in the inbox, and the start that follows has it taken
    obtain rfl : Id.ofNat 1 = inbox := Except.ok.inj appended.home
    have listed : Inbox.listed (Sample.misconfigured.post Sample.actor Sample.go).2.store
        (.ofNat 1) = [.ofNat 20] := by decide +kernel
    obtain rfl := List.mem_singleton.1 (listed ▸ awaits.awaits.listed)
    obtain ⟨answer, last, ran, tested⟩ := Run.exists_of_returns (World.spawn 2 Sample.actor)
      (fun answer last => answer.isOk &&
        last.journal.all (Sample.leftAlone Sample.actor (.ofNat 1) (.ofNat 20)) &&
        decide (last.store.supply.made ≤
          (Sample.misconfigured.post Sample.actor Sample.go).2.store.supply.made))
      Sample.mended (by decide +kernel)
    simp only [Bool.and_eq_true, decide_eq_true_eq] at tested
    obtain ⟨⟨ok, left⟩, none⟩ := tested
    obtain _ | ⟨⟨⟩⟩ := answer
    · cases ok
    have session : Session Sample.misconfigured Sample.mended :=
      (Session.first.returned 2 (.queue Sample.actor Sample.go)
        (Run.bind_of_ok post)).returned 2 (.execute Sample.mend) rfl
    have steps : Steps (Sample.misconfigured.post Sample.actor Sample.go).2 Sample.mended :=
      .single (.write _ Sample.mend)
    have undisturbed := Sample.undisturbed_of_leftAlone left none
    have untaken := awaits.untaken _ steps rfl
      (undisturbed.amid .refl (Steps.moves (World.spawn_steps ran))).toLeftTo
    rcases awaits.taken _ _ _ _ _ 2 _ last session (Steps.leaveAlone steps _ _) rfl ⟨_, rfl, rfl⟩ ran
      undisturbed with ⟨home, position, early⟩ | ⟨position, taken⟩
    · exact absurd early (untaken _ _ _ _)
    · exact ⟨_, _, cause, position, last, appended, started, post, ran, taken⟩
  · obtain ⟨answer, left, post, tested⟩ := Run.exists_of_returns
      ((engine 2).post Sample.other Sample.go)
      (fun answer left => !answer.isOk && (left.store.read (.ofNat 20)).isSome)
      Sample.misconfigured (by decide +kernel)
    simp only [Bool.and_eq_true] at tested
    obtain ⟨refused, there⟩ := tested
    obtain error | _ := answer
    swap
    · cases refused
    exact ⟨error, left, post, there,
      ((World.post_ends Sample.go unused' rfl).of_error post).1⟩

end Troupe
