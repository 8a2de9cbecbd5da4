import Troupe.Proofs.Records
import Troupe.Proofs.World.Changes
import Troupe.Proofs.World.Fifo
import Troupe.Proofs.World.Nesting
import Troupe.Proofs.World.Recovery

/-!
# A message that waits for its actor

A message that was posted to the inbox of a running actor stays there until the actor comes to it,
if others let it: they may push to the inbox, but not take entries away, and they must not write the
message, or handle it in the actor's place (`World.LeftTo`).  Then the actor does not pass it over
(`World.Lies.steps`).  As it is queued as long as entries wait for it, it takes the message before
the pump returns that is under way.

## Main results

* `World.Changes.appends`: what an inbox lists only gets longer;
* `World.Lies.steps`: a message lies where it is until it is taken;
* `World.Lies.not_served`: while it lies there, the queue is not empty;
* `World.Moves.minted_of_taken`: what was taken was made before.
-/

namespace Troupe

open Relation

/-! ## Inboxes that only get longer -/

namespace Store

variable {store before middle after : Store} {inbox : Id} {object : Json} {items : List Json}

/-- An object is an inbox that entries can be pushed to. -/
def Lists (store : Store) (inbox : Id) : Prop :=
  ∃ object items, store.read inbox = some object ∧
    listIn inbox object Inbox.entriesField = .ok items

/-- What an inbox lists it goes on to list, and entries can still be pushed to it. -/
def Appends (before after : Store) (inbox : Id) : Prop :=
  before.Lists inbox →
    after.Lists inbox ∧ Inbox.listed before inbox <+: Inbox.listed after inbox

lemma entries_of_listIn (listed : listIn inbox object Inbox.entriesField = .ok items) :
    Inbox.entries object = items.filterMap Json.id? := by
  rw [listIn_eq listed]
  unfold Inbox.entries Json.itemsIn
  cases object.field? Inbox.entriesField with
  | none => rfl
  | some value => cases value <;> rfl

lemma listIn_setField (listed : listIn inbox object Inbox.entriesField = .ok items)
    (more : List Json) :
    listIn inbox (object.setField Inbox.entriesField (.arr more)) Inbox.entriesField = .ok more := by
  cases object with
  | obj fields =>
    change listIn inbox (.obj (Assoc.insert Inbox.entriesField (.arr more) fields)) _ = _
    rw [listIn, Assoc.find?_insert, if_pos rfl]
  | _ => cases listed

namespace Appends

protected lemma trans (first : before.Appends middle inbox) (second : middle.Appends after inbox) :
    before.Appends after inbox := by
  intro lists
  obtain ⟨lists, early⟩ := first lists
  obtain ⟨lists, late⟩ := second lists
  exact ⟨lists, early.trans late⟩

lemma of_read_eq (same : after.read inbox = before.read inbox) : before.Appends after inbox := by
  rintro ⟨object, items, found, listed⟩
  have eq : Inbox.listed after inbox = Inbox.listed before inbox := by
    unfold Inbox.listed
    rw [same]
  exact ⟨⟨object, items, same.trans found, listed⟩, eq ▸ List.prefix_refl _⟩

protected lemma refl (store : Store) (inbox : Id) : store.Appends store inbox := of_read_eq rfl

/-- A push to an inbox, or to something else. -/
lemma of_push {object : Id} {item answer : Json}
    (done : store.push object Inbox.entriesField item = .ok (answer, after)) (inbox : Id) :
    store.Appends after inbox := by
  obtain ⟨current, items, found, listed, rfl⟩ := push_ok done
  by_cases same : object = inbox
  · subst same
    intro _
    have now := (read_put store object object
      (current.setField Inbox.entriesField (.arr (items ++ [item])))).trans (if_pos rfl)
    have more := listIn_setField listed (items ++ [item])
    refine ⟨⟨_, _, now, more⟩, ?_⟩
    rw [Inbox.listed, Inbox.listed, found, now]
    change Inbox.entries current <+: Inbox.entries _
    rw [entries_of_listIn listed, entries_of_listIn more, List.filterMap_append]
    exact List.prefix_append _ _
  · exact of_read_eq ((read_put _ _ _ _).trans (if_neg same))

/-- A mark does not touch the entries. -/
lemma of_mark {object : Id} {answer : Json}
    (done : store.update object (.obj [("processed", .bool true)]) = .ok (answer, after))
    (inbox : Id) : store.Appends after inbox := by
  obtain ⟨current, found, -, rfl⟩ := update_ok done
  by_cases same : object = inbox
  · subst same
    rintro ⟨object', items, found', listed⟩
    obtain rfl : current = object' := Option.some.inj (found.symm.trans found')
    have now := (read_put store object object
      (current.merge (.obj [("processed", .bool true)]))).trans (if_pos rfl)
    have still : listIn object (current.merge (.obj [("processed", .bool true)]))
        Inbox.entriesField = .ok items := by
      cases current with
      | obj fields =>
        rw [Json.merge_single rfl rfl, listIn, Assoc.find?_insert, if_neg (by decide)]
        exact listed
      | _ => cases listed
    refine ⟨⟨_, _, now, still⟩, ?_⟩
    rw [Inbox.listed, Inbox.listed, found, now]
    change Inbox.entries current <+: Inbox.entries _
    have same := (entries_of_listIn still).trans (entries_of_listIn listed).symm
    exact same ▸ List.prefix_refl _
  · exact of_read_eq ((read_put _ _ _ _).trans (if_neg same))

end Appends

end Store

namespace World

variable {world first before middle after : World} {actor inbox message : Id}

/-- Whoever writes an inbox pushes entries to it. -/
def OnlyPushed (before after : World) (inbox : Id) : Prop :=
  ∀ op, before.Newly after (.wrote inbox op) → ∃ item, op = .push inbox Inbox.entriesField item

lemma OnlyPushed.of_suffix (pushed : before.OnlyPushed after inbox) {start stop : World}
    (first : before.journal <:+ start.journal) (last : stop.journal <:+ after.journal) :
    start.OnlyPushed stop inbox :=
  fun op new => pushed op ((new.left first).right last)

lemma read_write_push (world : World) (object : Id) (field : String) (item : Json) (id : Id) :
    (world.write (.push object field item)).2.store.read id =
      (world.store.execute (.push object field item)).2.read id := by
  rw [write_snd]
  split <;> exact read_apply world _ id

/-- What an inbox lists only gets longer in one go, if nobody writes it but to push. -/
lemma Change.appends (change : Change before after) (pushed : before.OnlyPushed after inbox)
    (old : ¬ before.store.supply.Mints after.store.supply inbox) :
    before.store.Appends after.store inbox := by
  cases change with
  | write op =>
    rcases before.write_cases op with ⟨reads, -, -⟩ | ⟨object, others, -, journal⟩
    · exact .of_read_eq (reads inbox)
    · by_cases same : inbox = object
      · subst same
        obtain ⟨item, rfl⟩ := pushed op ((newly_iff [_] journal).2 List.mem_cons_self)
        cases done : before.store.push inbox Inbox.entriesField item with
        | error cause =>
          refine .of_read_eq ((read_write_push before _ _ _ _).trans ?_)
          rw [Store.execute, Store.apply, done]
        | ok result =>
          obtain ⟨answer, store⟩ := result
          have executed : (before.store.execute (.push inbox Inbox.entriesField item)).2 = store := by
            rw [Store.execute, Store.apply, done]
          exact (Store.Appends.of_push done inbox).trans
            (.of_read_eq ((read_write_push before _ _ _ _).trans (by rw [executed])))
      · exact .of_read_eq (others inbox same)
  | post target message =>
    -- in any case the message may have been made, which is not the inbox
    have made : (before.post target message).2.store.supply = before.store.supply.advance →
        before.store.Appends (Inbox.withMessage before.store target message) inbox := by
      intro supply
      refine .of_read_eq ((Inbox.write_withMessage _ target message).read_other inbox ?_)
      rintro rfl
      exact old (supply ▸ before.store.supply.mints_next)
    rcases before.post_cases target message with
      ⟨home, answer, store, -, done, stored, -⟩ | ⟨store, either, done⟩
    · have supply : store.supply = before.store.supply.advance := by
        obtain ⟨current, items, -, -, rfl⟩ := Store.push_ok done
        rfl
      rw [stored] at made ⊢
      exact (made supply).trans ((Store.Appends.of_push done inbox).trans (.of_read_eq rfl))
    · rw [done] at made ⊢
      rcases either with rfl | rfl
      · exact .of_read_eq (read_withStore _ _ _)
      · exact (made (by rw [withStore_store]; rfl)).trans (.of_read_eq (read_withStore _ _ _))
  | mark message =>
    rcases before.mark_cases message with ⟨answer, store, done, marked⟩ | unmarked
    · rw [marked]
      exact (Store.Appends.of_mark done inbox).trans (.of_read_eq (read_withStore before store _))
    · rw [unmarked]
      exact .of_read_eq (read_withStore before _ _)
  | enlist behavior stopped record => exact .of_read_eq rfl
  | aside notes store => exact store ▸ .refl _ _

/-- What an inbox lists only gets longer, if nobody writes it but to push. -/
theorem Changes.appends (changes : Changes before after) (pushed : before.OnlyPushed after inbox)
    (old : ¬ before.store.supply.Mints after.store.supply inbox) :
    before.store.Appends after.store inbox := by
  induction changes with
  | refl => exact .refl _ _
  | @tail middle after first last ih =>
    have early := Changes.records first
    have late := last.records
    have begin_ := ih (pushed.of_suffix (List.suffix_refl _) late.journal)
      fun mints => old (mints.of_leads_right late.supply)
    exact begin_.trans (last.appends (pushed.of_suffix early.journal (List.suffix_refl _))
      fun mints => old (mints.of_leads_left early.supply))

/-! ## Messages that lie there -/

/-- Nobody has taken a message. -/
def Untaken (world : World) (message : Id) : Prop :=
  ∀ other home position entry, .taken other home position message entry ∉ world.journal

/-- What nobody has taken nobody had taken before. -/
lemma Untaken.of_suffix (untaken : after.Untaken message)
    (suffix : before.journal <:+ after.journal) : before.Untaken message :=
  fun other home position entry mem => untaken other home position entry (suffix.subset mem)

/-- A message that nobody had taken is taken anew, or nobody has. -/
lemma Untaken.or_newly (untaken : before.Untaken message)
    (suffix : before.journal <:+ after.journal) :
    after.Untaken message ∨ ∃ other home position entry,
      before.Newly after (.taken other home position message entry) := by
  refine or_iff_not_imp_right.2 fun none other home position entry mem => none ?_
  exact ⟨other, home, position, entry, .of_mem suffix mem (untaken _ _ _ _)⟩

/-- A message is left to an actor: nobody writes it, posts to it as if it were an inbox, or handles
it in the actor's place. -/
structure LeftTo (before after : World) (message actor : Id) : Prop where
  /-- Nobody writes it, -/
  unwritten : ∀ op, ¬ before.Newly after (.wrote message op)
  /-- nothing is posted to it, -/
  unlisted : ∀ other, ¬ before.Newly after (.posted other message)
  /-- and nobody else handles it. -/
  taken : ∀ other home position entry,
    before.Newly after (.taken other home position message entry) → other = actor

/-- What is left to an actor is left to it in the meantime. -/
lemma LeftTo.of_suffix (left : before.LeftTo after message actor) {start stop : World}
    (first : before.journal <:+ start.journal) (last : stop.journal <:+ after.journal) :
    start.LeftTo stop message actor where
  unwritten op new := left.unwritten op ((new.left first).right last)
  unlisted other new := left.unlisted other ((new.left first).right last)
  taken other home position entry new :=
    left.taken other home position entry ((new.left first).right last)

/-- A message and the inbox that it is in are left to an actor, and neither of them is a new
object. -/
structure Undisturbed (before after : World) (actor inbox message : Id) : Prop
    extends LeftTo before after message actor where
  /-- Others push to the inbox, and that is all. -/
  pushed : before.OnlyPushed after inbox
  /-- The inbox is no new object, -/
  oldInbox : ¬ before.store.supply.Mints after.store.supply inbox
  /-- and neither is the message. -/
  oldMessage : ¬ before.store.supply.Mints after.store.supply message

/-- What is left alone is left alone in the meantime. -/
lemma Undisturbed.of_suffix (undisturbed : before.Undisturbed after actor inbox message)
    {start stop : World} (first : before.journal <:+ start.journal)
    (early : before.store.supply.Leads start.store.supply) (last : stop.journal <:+ after.journal)
    (late : stop.store.supply.Leads after.store.supply) :
    start.Undisturbed stop actor inbox message where
  toLeftTo := undisturbed.toLeftTo.of_suffix first last
  pushed := undisturbed.pushed.of_suffix first last
  oldInbox mints := undisturbed.oldInbox ((mints.of_leads_left early).of_leads_right late)
  oldMessage mints := undisturbed.oldMessage ((mints.of_leads_left early).of_leads_right late)

lemma Undisturbed.between (undisturbed : before.Undisturbed after actor inbox message)
    {start stop : World} (first : before.Records start) (last : stop.Records after) :
    start.Undisturbed stop actor inbox message :=
  undisturbed.of_suffix first.journal first.supply last.journal last.supply

lemma Undisturbed.amid (undisturbed : before.Undisturbed after actor inbox message)
    {start stop : World} (first : Moves before start) (last : Moves stop after) :
    start.Undisturbed stop actor inbox message :=
  undisturbed.of_suffix (Moves.suffix first) (Moves.supplies first).supply (Moves.suffix last)
    (Moves.supplies last).supply

/-- A message is marked by who has taken it. -/
lemma Step.taken_of_marked (step : Step before after) (new : before.Newly after (.marked message)) :
    ∃ actor home position entry,
      .taken actor home position message entry ∈ before.journal := by
  have absent : ∀ notes, after.journal = notes ++ before.journal →
      (∀ note ∈ notes, note ≠ .marked message) → False :=
    fun notes journal none => none _ ((newly_iff notes journal).1 new) rfl
  have looks : ∀ (actor inbox : Id) look, ∀ note ∈ lookNotes actor inbox look,
      note ≠ .marked message := by
    rintro actor inbox look note mem rfl
    obtain ⟨_, _, _, looks⟩ := looks_of_mem mem
    cases looks
  cases step with
  | write op =>
    rcases write_journal before op with same | ⟨object, noted⟩
    · exact (absent [] same (by simp)).elim
    · exact (absent [_] noted (by simp)).elim
  | post target sent =>
    obtain ⟨rest, journal, posted⟩ := before.post_journal target sent
    refine (absent (rest ++ [.sent target sent]) (by simpa using journal) ?_).elim
    rintro note mem rfl
    rcases List.mem_append.1 mem with posts | last
    · obtain ⟨id, inbox, eq⟩ := posted _ posts
      cases eq
    · cases List.mem_singleton.1 last
  | @mark running actor other entry handles =>
    obtain ⟨position, -, taken⟩ := handles.taken
    obtain ⟨marks, journal, either⟩ := before.mark_journal other
    have mem := (newly_iff marks journal).1 new
    rcases either with rfl | rfl
    · cases mem
    · cases List.mem_singleton.1 mem
      exact ⟨_, _, _, _, taken⟩
  | tools | render | pump | skip => exact (absent [] rfl (by simp)).elim
  | remember actor memory => exact (absent [] (updateRunning_journal _ _ _) (by simp)).elim
  | ask => exact (absent [_] rfl (by simp)).elim
  | accept =>
    rcases acceptReply_cases before _ _ _ with same | ⟨_, _, -, -, -, -, done⟩
    · exact (absent [] (by rw [same]; rfl) (by simp)).elim
    · exact (absent [_] (by rw [done]; rfl) (by simp)).elim
  | pass => exact (absent _ (pick_journal _ _ _ _) (looks _ _ _)).elim
  | take =>
    exact (absent _ ((updateRunning_journal _ _ _).trans (pick_journal _ _ _ _)) (looks _ _ _)).elim
  | finish => exact (absent [] (by split <;> simp [turnTo, schedule]) (by simp)).elim
  | started => exact (absent [] (updateRunning_journal _ _ _) (by simp)).elim
  | enlist => exact (absent [_] (updateRunning_journal _ _ _) (by simp)).elim

/-- What is marked in the end was taken. -/
lemma Steps.taken_of_marked (steps : Steps before after)
    (new : before.Newly after (.marked message)) :
    ∃ actor home position entry, .taken actor home position message entry ∈ after.journal := by
  induction steps with
  | refl => cases (newly_iff [] rfl).1 new
  | @tail middle after first last ih =>
    rcases new.cases (Moves.suffix (Steps.stepsOrBreaks first).moves) last.suffix with early | late
    · obtain ⟨actor, home, position, entry, taken⟩ := ih early
      exact ⟨actor, home, position, entry, last.suffix.subset taken⟩
    · obtain ⟨actor, home, position, entry, taken⟩ := last.taken_of_marked late
      exact ⟨actor, home, position, entry, last.suffix.subset taken⟩

end World

namespace Inbox

variable {store : Store} {listed : List Id} {cursor place : Nat} {message : Id} {entry : Entry}

/-- A look does not go past a message that can be read and was not handled, unless it takes it. -/
lemma look_stops (before : cursor ≤ place) (there : listed[place]? = some message)
    (stored : (store.read message).bind Entry.ofJson? = some entry)
    (unprocessed : entry.processed = false)
    (leaves : ∀ position found,
      (look store cursor (listed.drop cursor)).next ≠ some (position, message, found)) :
    (look store cursor (listed.drop cursor)).cursor ≤ place := by
  have spec := look_spec store cursor (listed.drop cursor)
  generalize look store cursor (listed.drop cursor) = found at spec leaves ⊢
  have here : (listed.drop cursor)[place - cursor]? = some message := by
    rw [List.getElem?_drop, Nat.add_sub_cancel' before, there]
  -- the message is not among those that are passed over
  have few : found.passed.length ≤ place - cursor := by
    by_contra many
    have passed : (found.passed.map Skip.message)[place - cursor]? = some message := by
      rw [spec.messages, List.getElem?_take_of_lt (Nat.lt_of_not_le many), here]
    obtain ⟨skip, mem, rfl⟩ := List.mem_map.1 (List.mem_of_getElem? passed)
    obtain ⟨read, passable⟩ := spec.reasons skip mem
    rw [passable entry (read.trans stored)] at unprocessed
    cases unprocessed
  cases next : found.next with
  | none =>
    obtain ⟨all, -⟩ := spec.none next
    have lt := (List.getElem?_eq_some_iff.1 here).1
    omega
  | some taken =>
    obtain ⟨position, other, picked⟩ := taken
    obtain ⟨at_, which, -, -, cursor_eq⟩ := spec.next position other picked next
    by_cases same : found.passed.length = place - cursor
    · rw [same, here] at which
      cases which
      exact absurd next (leaves position picked)
    · omega

/-- A look ends in the list. -/
lemma look_within (before : cursor ≤ listed.length) :
    (look store cursor (listed.drop cursor)).cursor ≤ listed.length := by
  have spec := look_spec store cursor (listed.drop cursor)
  cases next : (look store cursor (listed.drop cursor)).next with
  | none =>
    obtain ⟨-, cursor_eq⟩ := spec.none next
    rw [cursor_eq, List.length_drop]
    omega
  | some taken =>
    obtain ⟨position, other, picked⟩ := taken
    obtain ⟨at_, which, -, -, cursor_eq⟩ := spec.next position other picked next
    have lt := (List.getElem?_eq_some_iff.1 which).1
    rw [List.length_drop] at lt
    omega

end Inbox

namespace World

variable {world first before middle after : World} {actor inbox message : Id} {bound place : Nat}
variable {entry : Entry} {running : Running}

/-- Where a running actor is after a step: where it was, at its start, or where its look ended. -/
lemma Step.cursor_cases (step : Step before after)
    (found : before.running.find? actor = some running) :
    ∃ new, after.running.find? actor = some new ∧ new.config = running.config ∧
      (new.cursor ≤ running.cursor ∨
        new.cursor = (before.lookFor running
          (Inbox.listed before.store running.config.inbox)).cursor ∧
        after.journal = lookNotes actor running.config.inbox (before.lookFor running
          (Inbox.listed before.store running.config.inbox)) ++ before.journal) := by
  obtain ⟨new, there, config⟩ := (step.changes.routes running.config.inbox).kept actor running found
  refine ⟨new, there, config, ?_⟩
  have same : ∀ {old}, before.running.find? actor = some old → old = running :=
    fun found' => Option.some.inj (found'.symm.trans found)
  cases step.shift with
  | still notes kept journal silent =>
    obtain ⟨old, found', -, cursor⟩ := kept actor new there
    exact .inl (Nat.le_of_eq (by rw [cursor, same found']))
  | @look other running' look found' looked kept journal =>
    obtain ⟨old, there', -, cursor⟩ := kept actor new there
    obtain rfl := same there'
    split_ifs at cursor with own
    · subst own
      obtain rfl := same found'
      subst looked
      exact .inr ⟨cursor, journal⟩
    · exact .inl (Nat.le_of_eq cursor)
  | @start other config' kept journal =>
    rcases kept actor new there with ⟨-, -, cursor⟩ | ⟨-, old, found', -, cursor⟩
    · exact .inl (cursor ▸ Nat.zero_le _)
    · exact .inl (Nat.le_of_eq (by rw [cursor, same found']))

/-- An actor has come no further in its inbox than it lists, and entries can be pushed to it. -/
structure Within (world : World) (actor : Id) (config : ActorConfig) : Prop where
  /-- The actor is running, -/
  reader : ∃ running, world.running.find? actor = some running ∧ running.config = config ∧
    running.cursor ≤ (Inbox.listed world.store config.inbox).length
  /-- and entries can be pushed. -/
  lists : world.store.Lists config.inbox

/-- A message lies in the inbox of an actor, which has not come to it. -/
structure Lies (world : World) (actor inbox message : Id) (entry : Entry) (place : Nat) : Prop where
  /-- The actor has not come to it. -/
  reader : ∃ running, world.running.find? actor = some running ∧ running.config.inbox = inbox ∧
    running.cursor ≤ place
  /-- Entries can be pushed to the inbox, -/
  lists : world.store.Lists inbox
  /-- which lists the message. -/
  there : (Inbox.listed world.store inbox)[place]? = some message
  /-- The message can be read, -/
  stored : (world.store.read message).bind Entry.ofJson? = some entry
  /-- and was not handled. -/
  unprocessed : entry.processed = false

/-- An actor stays within its inbox, if others only push to it. -/
lemma Within.step {config : ActorConfig} (within : before.Within actor config)
    (step : Step before after) (pushed : before.OnlyPushed after config.inbox)
    (old : ¬ before.store.supply.Mints after.store.supply config.inbox) :
    after.Within actor config := by
  obtain ⟨running, found, rfl, cursor⟩ := within.reader
  obtain ⟨lists, longer⟩ := step.changes.appends pushed old within.lists
  obtain ⟨new, there, config, moved⟩ := step.cursor_cases found
  refine ⟨⟨new, there, config, ?_⟩, lists⟩
  refine Nat.le_trans ?_ longer.length_le
  rcases moved with still | ⟨looked, -⟩
  · exact Nat.le_trans still cursor
  · rw [looked]
    exact Inbox.look_within cursor

/-- A message stays as it is until it is taken, if it is left to its reader. -/
lemma LeftTo.read_eq (left : before.LeftTo after message actor) (steps : Steps before after)
    (old : ¬ before.store.supply.Mints after.store.supply message)
    (untaken : after.Untaken message) :
    after.store.read message = before.store.read message := by
  by_contra changed
  rcases (Steps.records steps).changed message changed with new | touched
  · exact old new
  · cases touched with
    | wrote op wrote => exact left.unwritten op wrote
    | delivered target delivers =>
      obtain ⟨id, sent, later, earlier, journal⟩ := delivers
      exact left.unlisted id ((newly_iff (later ++ .posted id message :: .sent target sent :: earlier)
        (by simpa using journal)).2 (by simp))
    | marked marked =>
      obtain ⟨other, home, position, entry, taken⟩ := Steps.taken_of_marked steps marked
      exact untaken other home position entry taken

/-- A message that is not taken in a step lies where it was. -/
lemma Lies.step (lies : before.Lies actor inbox message entry place) (step : Step before after)
    (undisturbed : before.Undisturbed after actor inbox message)
    (untaken : after.Untaken message) : after.Lies actor inbox message entry place := by
  obtain ⟨running, found, rfl, cursor⟩ := lies.reader
  obtain ⟨lists, rest, longer⟩ :=
    step.changes.appends undisturbed.pushed undisturbed.oldInbox lies.lists
  have same := undisturbed.toLeftTo.read_eq (.single step) undisturbed.oldMessage untaken
  obtain ⟨new, now, config, moved⟩ := step.cursor_cases found
  refine ⟨⟨new, now, by rw [config], ?_⟩, lists, ?_, same ▸ lies.stored, lies.unprocessed⟩
  · rcases moved with still | ⟨looked, journal⟩
    · exact Nat.le_trans still cursor
    · rw [looked]
      refine Inbox.look_stops cursor lies.there lies.stored lies.unprocessed
        fun position found next => ?_
      refine untaken actor running.config.inbox position found ?_
      rw [journal]
      exact List.mem_append_left _ (taken_mem_lookNotes next)
  · rw [← longer, List.getElem?_append_left (List.getElem?_eq_some_iff.1 lies.there).1]
    exact lies.there

/-- **A message lies where it is until it is taken**, if it is left to its reader and its inbox is
only pushed to. -/
theorem Lies.steps (lies : before.Lies actor inbox message entry place) (steps : Steps before after)
    (undisturbed : before.Undisturbed after actor inbox message)
    (untaken : after.Untaken message) : after.Lies actor inbox message entry place := by
  induction steps with
  | refl => exact lies
  | @tail middle after first last ih =>
    have early := Steps.records first
    have late := last.changes.records
    have lies := ih (undisturbed.between (.refl _) late) (untaken.of_suffix late.journal)
    exact lies.step last (undisturbed.between early (.refl _)) untaken

lemma Within.steps {config : ActorConfig} (within : before.Within actor config)
    (steps : Steps before after) (pushed : before.OnlyPushed after config.inbox)
    (old : ¬ before.store.supply.Mints after.store.supply config.inbox) :
    after.Within actor config := by
  induction steps with
  | refl => exact within
  | @tail middle after first last ih =>
    have early := Steps.records first
    have late := last.changes.records
    have within := ih (pushed.of_suffix (List.suffix_refl _) late.journal)
      fun mints => old (mints.of_leads_right late.supply)
    exact within.step last (pushed.of_suffix early.journal (List.suffix_refl _))
      fun mints => old (mints.of_leads_left early.supply)

/-! ## Messages that are posted -/

/-- What is pushed to an inbox is appended, unless the inbox is protected. -/
lemma push_of_lists {store : Store} (lists : store.Lists inbox) (free : inbox ∉ store.locked)
    (item : Json) :
    ∃ answer after, store.push inbox Inbox.entriesField item = .ok (answer, after) := by
  obtain ⟨object, items, found, listed⟩ := lists
  have writable : store.checkWritable inbox = .ok () := by
    rw [Store.checkWritable, if_neg]
    simpa using free
  simp only [Store.push, writable, found, listed, bind, Except.bind, pure, Except.pure]
  exact ⟨_, _, rfl⟩

/-- A message goes to the inbox of a running actor. -/
lemma inboxOf_of_runs (found : world.running.find? actor = some running) :
    Inbox.inboxOf (some world.store) (world.liveInbox? actor) actor =
      .ok running.config.inbox := by
  rw [liveInbox?, found]
  rfl

/-- A message to a running actor is made in any case. -/
lemma post_supply (found : world.running.find? actor = some running) (message : Message) :
    (world.post actor message).2.store.supply = world.store.supply.advance := by
  have routed := inboxOf_of_runs found
  rcases Inbox.append_cases world.store running.config.inbox actor message with
    ⟨answer, store, done, appended⟩ | ⟨error, refused⟩
  · rw [post_of_append routed appended]
    obtain ⟨current, items, -, -, rfl⟩ := Store.push_ok done
    dsimp only
    rw [wake_store]
    exact congrArg Store.supply (withStore_store _ _)
  · rw [post_of_append routed refused]
    exact congrArg Store.supply (withStore_store _ _)

/-- A message to an actor whose inbox can be pushed to is put there. -/
lemma Within.posted {config : ActorConfig} (within : world.Within actor config)
    (free : config.inbox ∉ world.store.locked) (old : config.inbox ≠ world.store.supply.next)
    (message : Message) : ∃ id,
      world.Posted actor message id config.inbox (world.post actor message).2 := by
  obtain ⟨running, found, rfl, -⟩ := within.reader
  have routed := inboxOf_of_runs found
  have made := Inbox.write_withMessage world.store actor message
  obtain ⟨lists, -⟩ :=
    (Store.Appends.of_read_eq (made.read_other _ old) : world.store.Appends _ _) within.lists
  obtain ⟨answer, store, done⟩ := push_of_lists lists (by rwa [made.locked])
    (.id world.store.supply.next)
  unfold Inbox.withMessage at done
  have sent : (world.post actor message).1 = .ok world.store.supply.next := by
    simp only [post, Inbox.post, routed, Inbox.append, done]
  obtain ⟨inbox, posted⟩ := post_posted sent
  have same := posted.home
  rw [routed] at same
  cases same
  exact ⟨_, posted⟩

/-- A message that was put into the inbox of an actor lies there. -/
lemma Posted.lies {config : ActorConfig} {id : Id} {sent : Message}
    (posted : before.Posted actor sent id config.inbox after) (within : before.Within actor config)
    (other : id ≠ config.inbox) :
    after.Lies actor config.inbox id (Entry.pending actor sent)
      (Inbox.listed before.store config.inbox).length := by
  obtain ⟨running, found, rfl, cursor⟩ := within.reader
  obtain ⟨object, items, read, listed⟩ := within.lists
  obtain ⟨object', read', now⟩ := posted.listed other
  obtain rfl : object = object' := Option.some.inj (read.symm.trans read')
  rw [← Store.listIn_eq listed] at now
  have more := Store.listIn_setField listed (items ++ [.id id])
  refine ⟨⟨running, posted.running ▸ found, rfl, cursor⟩, ⟨_, _, now, more⟩, ?_, ?_, rfl⟩
  · rw [Inbox.listed, Inbox.listed, now, read]
    change (Inbox.entries _)[(Inbox.entries object).length]? = some id
    rw [Store.entries_of_listIn listed, Store.entries_of_listIn more, List.filterMap_append]
    simp [Json.id?_id]
  · rw [posted.stored other, Option.bind_some]
    exact Entry.ofJson?_toJson _

/-! ## The queue -/

/-- No wakeup of an actor is lost that is queued. -/
lemma AwakeAmong.of_queued {among : Id → Prop} (awake : AwakeAmong among world)
    (queued : actor ∈ world.ready.order) : AwakeAmong (· = actor) world where
  toWatchful := awake.toWatchful
  calls := awake.calls
  attended other running same _ := by
    rw [same]
    exact .of_queued queued

/-- While a message lies in the inbox of an idle actor, the queue is not empty. -/
lemma Lies.not_served (lies : world.Lies actor inbox message entry place)
    (awake : AwakeAmong (· = actor) world) (idle : world.Idle) : world.ready.order ≠ [] := by
  obtain ⟨running, found, rfl, cursor⟩ := lies.reader
  intro served
  exact awake.of_served rfl served found (idle actor running found)
    (Nat.lt_of_le_of_lt cursor (List.getElem?_eq_some_iff.1 lies.there).1)

/-! ## New messages -/

/-- Every object has its identifier from the supply. -/
def Stocked (world : World) : Prop :=
  ∀ id, (world.store.read id).isSome → world.store.supply.Minted id

lemma Moves.stocked (moves : Moves first world) (stocked : first.Stocked) : world.Stocked :=
  fun id there => (moves.supplies.origin id there).elim
    (fun early => (stocked id early).of_leads moves.supplies.supply) Supply.Mints.minted

/-- What was taken was made before. -/
lemma Moves.minted_of_taken (moves : Moves first world) (stocked : first.Stocked)
    (new : first.journal = [])
    (taken : .taken actor inbox place message entry ∈ world.journal) :
    world.store.supply.Minted message := by
  obtain ⟨later, earlier, journal⟩ := List.append_of_mem taken
  rcases moves.read (.taken entry) journal with first | ⟨then_, early, late, -, found⟩
  · rw [new] at first
    cases first
  · obtain ⟨value, there, -⟩ := Option.bind_eq_some_iff.1 found
    exact (early.stocked stocked message (there ▸ rfl)).of_leads late.supplies.supply

end World

end Troupe
