import Troupe.Proofs.Store.Effects
import Troupe.Proofs.World.Mail

/-!
# Changes are noted

Whatever a runtime does by itself, its objects change in three ways only: somebody writes one, a
message is put into an inbox, or a message is marked.  Each is noted, so an object that changed can
be told from the journal (`World.Records`).

A message goes to the inbox that the record of its target names, and an actor is started with the
context that its record names.  A record does not come to name another object unless somebody
writes it, so nothing is led to an object that no record names, but by a record that was written
meanwhile (`World.Leads`).

## Main results

* `World.Step.changes`, `World.StepsOrBreaks.changes`: what happens, as far as objects are
  concerned;
* `World.Changes.records`: what changed was noted;
* `World.Changes.routes`: what leads to an object was written, or led to it before.
-/

namespace Troupe

open Relation

namespace World

variable {world first before middle after : World} {object id : Id} {note : Note}

/-! ## What was noted -/

/-- Something was noted between two states. -/
def Newly (before after : World) (note : Note) : Prop :=
  ∃ notes, after.journal = notes ++ before.journal ∧ note ∈ notes

/-- A message was sent to a target and put into an inbox for it. -/
def Delivers (before after : World) (target inbox : Id) : Prop :=
  ∃ id message later earlier, after.journal =
    later ++ .posted id inbox :: .sent target message :: (earlier ++ before.journal)

lemma newly_iff (notes : List Note) (journal : after.journal = notes ++ before.journal) :
    before.Newly after note ↔ note ∈ notes := by
  constructor
  · rintro ⟨other, same, mem⟩
    exact List.append_cancel_right (same.symm.trans journal) ▸ mem
  · exact fun mem => ⟨notes, journal, mem⟩

namespace Newly

lemma left (journal : before.journal <:+ middle.journal) (new : middle.Newly after note) :
    before.Newly after note := by
  obtain ⟨earlier, eq⟩ := journal
  obtain ⟨notes, eq', mem⟩ := new
  exact ⟨notes ++ earlier, by rw [eq', ← eq, List.append_assoc], List.mem_append_left _ mem⟩

lemma right (new : before.Newly middle note) (journal : middle.journal <:+ after.journal) :
    before.Newly after note := by
  obtain ⟨later, eq⟩ := journal
  obtain ⟨notes, eq', mem⟩ := new
  exact ⟨later ++ notes, by rw [← eq, eq', List.append_assoc], List.mem_append_right _ mem⟩

lemma cases (first : before.journal <:+ middle.journal) (second : middle.journal <:+ after.journal)
    (new : before.Newly after note) : before.Newly middle note ∨ middle.Newly after note := by
  obtain ⟨earlier, eq⟩ := first
  obtain ⟨later, eq'⟩ := second
  have all : after.journal = (later ++ earlier) ++ before.journal := by
    rw [← eq', ← eq, List.append_assoc]
  rcases List.mem_append.1 ((newly_iff _ all).1 new) with late | early
  · exact .inr ⟨later, eq'.symm, late⟩
  · exact .inl ⟨earlier, eq.symm, early⟩

lemma mem (new : before.Newly after note) : note ∈ after.journal := by
  obtain ⟨notes, eq, mem⟩ := new
  exact eq ▸ List.mem_append_left _ mem

/-- What is noted in the end and was not at first is new. -/
lemma of_mem (journal : before.journal <:+ after.journal) (mem : note ∈ after.journal)
    (absent : note ∉ before.journal) : before.Newly after note := by
  obtain ⟨notes, eq⟩ := journal
  rw [← eq] at mem
  exact ⟨notes, eq.symm, (List.mem_append.1 mem).resolve_right absent⟩

end Newly

namespace Delivers

variable {target inbox : Id}

lemma left (journal : before.journal <:+ middle.journal)
    (delivers : middle.Delivers after target inbox) : before.Delivers after target inbox := by
  obtain ⟨more, eq⟩ := journal
  obtain ⟨id, message, later, earlier, eq'⟩ := delivers
  exact ⟨id, message, later, earlier ++ more, by rw [eq', ← eq, List.append_assoc]⟩

lemma right (delivers : before.Delivers middle target inbox)
    (journal : middle.journal <:+ after.journal) : before.Delivers after target inbox := by
  obtain ⟨more, eq⟩ := journal
  obtain ⟨id, message, later, earlier, eq'⟩ := delivers
  exact ⟨id, message, more ++ later, earlier, by rw [← eq, eq', List.append_assoc]⟩

end Delivers

/-! ## What happens to objects -/

/-- What happens in one go, as far as objects and the records of running actors are concerned. -/
inductive Change : World → World → Prop
  /-- Somebody carries out a store operation. -/
  | write (world : World) (op : StoreOp) : Change world (world.write op).2
  /-- A message is posted. -/
  | post (world : World) (target : Id) (message : Message) :
    Change world (world.post target message).2
  /-- A message is marked. -/
  | mark (world : World) (message : Id) : Change world (world.mark message)
  /-- An actor that does not run is entered among the running ones. -/
  | enlist {world : World} {actor : Id} {config : ActorConfig} (behavior : Behavior)
    (stopped : world.running.contains actor = false)
    (record : world.actorConfig actor = .ok config) :
    Change world (world.enlist actor config behavior)
  /-- Something else happens. -/
  | aside {before after : World} (notes : List Note) (store : after.store = before.store)
    (journal : after.journal = notes ++ before.journal)
    (silent : ∀ note ∈ notes, note.ofStore = false)
    (running : ∀ id, (after.running.find? id).map Running.config =
      (before.running.find? id).map Running.config) : Change before after

/-- Any number of changes. -/
abbrev Changes : World → World → Prop := ReflTransGen Change

namespace Change

/-- Nothing is noted. -/
lemma of_silent (store : after.store = before.store) (journal : after.journal = before.journal)
    (running : ∀ id, (after.running.find? id).map Running.config =
      (before.running.find? id).map Running.config) : Change before after :=
  .aside [] store journal (by simp) running

/-- What is known of one running actor changes, but for its record. -/
lemma update (world : World) (actor : Id) {change : Running → Running}
    (config : ∀ running, (change running).config = running.config) :
    Change world (world.updateRunning actor change) := by
  refine of_silent (updateRunning_store _ _ _) (updateRunning_journal _ _ _) fun id => ?_
  rw [find?_updateRunning]
  split
  · rw [Option.map_map]
    exact congrFun (congrArg Option.map (funext config)) _
  · rfl

lemma turnTo (world : World) (actor : Id) (activity : Activity) :
    Change world (world.turnTo actor activity) := update world actor fun _ => rfl

lemma schedule (world : World) (actor : Id) : Change world (world.schedule actor) :=
  of_silent rfl rfl fun _ => rfl

lemma pick (world : World) (actor : Id) (running : Running) (listed : List Id) :
    Change world (world.pick actor running listed).2 := by
  refine .aside _ (pick_store _ _ _ _) (pick_journal _ _ _ _) (fun note mem => ?_) fun id => ?_
  · rcases List.mem_append.1 mem with taken | passed
    · obtain ⟨next, -, rfl⟩ := Option.map_eq_some_iff.1 (Option.mem_toList.1 taken)
      rfl
    · obtain ⟨skip, -, rfl⟩ := List.mem_map.1 (List.mem_reverse.1 passed)
      rfl
  · rw [find?_pick]
    split
    · rw [Option.map_map]
      rfl
    · rfl

lemma acceptReply (world : World) (receiver message : Id) (entry : Entry) :
    Change world (world.acceptReply receiver message entry).2 := by
  rcases acceptReply_cases world receiver message entry with same | ⟨_, _, -, -, -, -, done⟩
  · rw [same]
    exact of_silent rfl rfl fun _ => rfl
  · rw [done]
    exact .aside [_] rfl rfl (by simp [Note.ofStore]) fun _ => rfl

end Change

lemma Step.changes (step : Step before after) : Changes before after := by
  cases step with
  | write op => exact .single (.write before op)
  | post target message => exact .single (.post before target message)
  | mark handles => exact .single (.mark before _)
  | tools | render | pump | skip => exact .single (.of_silent rfl rfl fun _ => rfl)
  | remember actor memory => exact .single (.update before actor fun _ => rfl)
  | ask target event runs =>
    exact .single (.aside [_] rfl rfl (by simp [Note.ofStore]) fun _ => rfl)
  | accept => exact .single (.acceptReply before _ _ _)
  | @pass actor ready running next found idle none =>
    exact .tail (.single (.of_silent rfl rfl fun _ => rfl : Change before { before with ready }))
      (.pick _ _ _ _)
  | @take actor ready running taken next found idle some =>
    exact .tail (.tail (.single (.of_silent rfl rfl fun _ => rfl : Change before { before with ready }))
      (.pick _ _ _ _)) (.turnTo _ _ _)
  | @finish actor running listed found busy =>
    split
    · exact .tail (.single (.turnTo before actor .idle)) (.schedule _ actor)
    · exact .single (.turnTo before actor .idle)
  | enlist stopped record loaded =>
    exact .tail (.single (.enlist _ stopped record)) (.turnTo _ _ _)
  | @started actor running found busy =>
    exact .tail (.single (.turnTo before actor .idle)) (.schedule _ actor)

lemma StepsOrBreaks.changes (stepsOrBreaks : StepsOrBreaks before after) :
    Changes before after := by
  induction stepsOrBreaks with
  | refl => exact .refl
  | tail _ stepOrBreak ih =>
    refine ih.trans ?_
    cases stepOrBreak with
    | step step => exact step.changes
    | breakOff found busy => exact .single (.turnTo _ _ _)
    | jam next found busy => exact .single (.of_silent rfl rfl fun _ => rfl)

/-! ## Every change is noted -/

/-- Something was noted of an object that may have changed it. -/
inductive Touched (before after : World) (object : Id) : Prop
  /-- Somebody wrote it. -/
  | wrote (op : StoreOp) : before.Newly after (.wrote object op) → Touched before after object
  /-- A message was put into it, as the inbox of its target. -/
  | delivered (target : Id) : before.Delivers after target object → Touched before after object
  /-- It was marked, as a message. -/
  | marked : before.Newly after (.marked object) → Touched before after object

lemma Touched.left (journal : before.journal <:+ middle.journal)
    (touched : middle.Touched after object) : before.Touched after object := by
  cases touched with
  | wrote op new => exact .wrote op (new.left journal)
  | delivered target delivers => exact .delivered target (delivers.left journal)
  | marked new => exact .marked (new.left journal)

lemma Touched.right (touched : before.Touched middle object)
    (journal : middle.journal <:+ after.journal) : before.Touched after object := by
  cases touched with
  | wrote op new => exact .wrote op (new.right journal)
  | delivered target delivers => exact .delivered target (delivers.right journal)
  | marked new => exact .marked (new.right journal)

/-- All that changes is noted. -/
structure Records (before after : World) : Prop where
  /-- What happened stays. -/
  journal : before.journal <:+ after.journal
  /-- New identifiers come from the same supply. -/
  supply : before.store.supply.Leads after.store.supply
  /-- An object that changed is new, or it was noted. -/
  changed : ∀ object, after.store.read object ≠ before.store.read object →
    before.store.supply.Mints after.store.supply object ∨ before.Touched after object
  /-- An operation that wrote an object names it, or has made it. -/
  named : ∀ object op, before.Newly after (.wrote object op) →
    op.object? = some object ∨ before.store.supply.Mints after.store.supply object

namespace Records

protected lemma refl (world : World) : world.Records world where
  journal := List.suffix_refl _
  supply := .refl _
  changed _ changed := absurd rfl changed
  named _ _ new := by cases (newly_iff [] rfl).1 new

protected lemma trans (first : before.Records middle) (second : middle.Records after) :
    before.Records after where
  journal := first.journal.trans second.journal
  supply := first.supply.trans second.supply
  changed object changed := by
    by_cases early : middle.store.read object = before.store.read object
    · refine (second.changed object fun same => changed (same.trans early)).imp
        (fun new => new.of_leads_left first.supply) fun touched => touched.left first.journal
    · exact (first.changed object early).imp (fun new => new.of_leads_right second.supply)
        fun touched => touched.right second.journal
  named object op new := by
    rcases new.cases first.journal second.journal with early | late
    · exact (first.named object op early).imp_right fun new => new.of_leads_right second.supply
    · exact (second.named object op late).imp_right fun new => new.of_leads_left first.supply

/-- Nothing changes. -/
lemma of_eq (notes : List Note) (reads : ∀ id, after.store.read id = before.store.read id)
    (supply : after.store.supply = before.store.supply)
    (journal : after.journal = notes ++ before.journal)
    (unwritten : ∀ object op, .wrote object op ∉ notes) : before.Records after where
  journal := journal ▸ List.suffix_append _ _
  supply := supply ▸ .refl _
  changed object changed := absurd (reads object) changed
  named object op new := absurd ((newly_iff _ journal).1 new) (unwritten object op)

end Records

/-- An operation that takes effect names the object that it writes, or makes it. -/
lemma named_of_written? {store : Store} {op : StoreOp} (written : store.written? op = some object) :
    op.object? = some object ∨
      op.object? = none ∧ store.supply.Mints (store.execute op).2.supply object := by
  cases op with
  | create value key =>
    refine .inr ⟨rfl, ?_⟩
    have made : (store.execute (.create value key)).2 = (store.create value key).2 := rfl
    unfold Store.written? at written
    dsimp only [Store.apply] at written
    split at written
    · cases written
    · rename_i new
      rw [Option.not_isSome_iff_eq_none] at new
      rw [← Option.some.inj written, made, Store.create, new]
      exact store.supply.mints_next
  | update id patch | push id field item =>
    unfold Store.written? at written
    split at written
    · cases written
    · exact .inl written
  | delete id => exact .inl (congrArg some (Store.eq_of_written?_delete written).symm)

/-- A write does nothing, or it writes one object and notes it. -/
lemma write_cases (world : World) (op : StoreOp) :
    ((∀ id, (world.write op).2.store.read id = world.store.read id) ∧
      (world.write op).2.store.supply = world.store.supply ∧
      (world.write op).2.journal = world.journal) ∨
    ∃ object, (∀ id, id ≠ object → (world.write op).2.store.read id = world.store.read id) ∧
      (op.object? = some object ∨
        op.object? = none ∧ world.store.supply.Mints (world.write op).2.store.supply object) ∧
      (world.write op).2.journal = .wrote object op :: world.journal := by
  have store : (world.write op).2.store = (world.apply op).2.store := by
    rw [write_snd]
    split <;> rfl
  have reads : ∀ id, (world.write op).2.store.read id = (world.store.execute op).2.read id :=
    fun id => (congrArg (Store.read · id) store).trans (read_apply world op id)
  have supply : (world.write op).2.store.supply = (world.store.execute op).2.supply := by
    rw [store, apply, withStore_store]
  rcases world.store.execute_cases op with ⟨none, same⟩ | ⟨object, written, write⟩
  · refine .inl ⟨fun id => (reads id).trans (by rw [same]), supply.trans (by rw [same]), ?_⟩
    rw [write_snd, none]
    exact apply_journal world op
  · refine .inr ⟨object, fun id other => (reads id).trans (write.read_other id other),
      supply ▸ named_of_written? written, ?_⟩
    rw [write_snd, written]
    exact congrArg (_ :: ·) (apply_journal world op)

lemma write_records (world : World) (op : StoreOp) : world.Records (world.write op).2 := by
  rcases world.write_cases op with ⟨reads, supply, journal⟩ | ⟨object, others, named, journal⟩
  · exact .of_eq [] reads supply journal (by simp)
  · have wrote : ∀ {note}, world.Newly (world.write op).2 note ↔ note = .wrote object op :=
      (newly_iff [_] journal).trans List.mem_singleton
    refine ⟨(world.write_storeFrame op).suffix, (world.write_storeFrame op).store.supply,
      fun id changed => ?_, fun id op' new => ?_⟩
    · by_cases same : id = object
      · exact .inr (.wrote op (wrote.2 (by rw [same])))
      · exact absurd (others id same) changed
    · cases wrote.1 new
      exact named.imp_right And.right

lemma mark_records (world : World) (message : Id) : world.Records (world.mark message) := by
  have supply := (world.mark_storeFrame message).store.supply
  have journal := (world.mark_storeFrame message).suffix
  rcases world.mark_cases message with ⟨answer, store, done, marked⟩ | unmarked
  · obtain ⟨current, found, -, rfl⟩ := Store.update_ok done
    have noted : (world.mark message).journal = [.marked message] ++ world.journal := by
      rw [marked]
      exact congrArg (_ :: ·) (withStore_journal _ _)
    refine ⟨journal, supply, fun other changed => ?_, fun object op new => ?_⟩
    · by_cases same : other = message
      · exact .inr (.marked (same ▸ (newly_iff _ noted).2 (List.mem_singleton_self _)))
      · refine absurd ?_ changed
        rw [marked]
        exact (read_withStore _ _ _).trans ((Store.read_put _ _ _ _).trans (if_neg (Ne.symm same)))
    · cases List.mem_singleton.1 ((newly_iff _ noted).1 new)
  · rw [unmarked]
    exact .of_eq [] (read_withStore world _) (by rw [withStore_store])
      (withStore_journal _ _) (by simp)

lemma post_records (world : World) (target : Id) (message : Message) :
    world.Records (world.post target message).2 := by
  have supply := (world.post_storeFrame target message).store.supply
  have journal := (world.post_storeFrame target message).suffix
  have made := Inbox.write_withMessage world.store target message
  -- in any case the message may have been made
  have new : ∀ {after : World}, after.store.supply = world.store.supply.advance →
      world.store.supply.Mints after.store.supply world.store.supply.next :=
    fun advanced => advanced ▸ world.store.supply.mints_next
  rcases world.post_cases target message with
    ⟨inbox, answer, store, -, pushed, stored, noted⟩ | ⟨store, either, done⟩
  · obtain ⟨current, items, found, -, rfl⟩ := Store.push_ok pushed
    refine ⟨journal, supply, fun other changed => ?_, fun object op wrote => ?_⟩
    · by_cases same : other = inbox
      · exact .inr (.delivered target ⟨_, message, [], [], same ▸ noted⟩)
      · by_cases next : other = world.store.supply.next
        · rw [next]
          exact .inl (new (by rw [stored]; rfl))
        · refine absurd ?_ changed
          rw [stored]
          exact (Store.read_put _ _ _ _).trans
            ((if_neg (Ne.symm same)).trans (made.read_other other next))
    · have mem := (newly_iff [_, _] noted).1 wrote
      simp at mem
  · rw [done] at supply journal ⊢
    have noted : ((world.note (.sent target message)).withStore store).journal =
        [.sent target message] ++ world.journal := withStore_journal _ _
    refine ⟨journal, supply, fun other changed => ?_, fun object op wrote => ?_⟩
    · rw [read_withStore] at changed
      rcases either with rfl | rfl
      · exact absurd rfl changed
      · by_cases next : other = world.store.supply.next
        · rw [next]
          exact .inl (new (by rw [withStore_store]; rfl))
        · exact absurd (made.read_other other next) changed
    · cases List.mem_singleton.1 ((newly_iff _ noted).1 wrote)

lemma Change.records (change : Change before after) : before.Records after := by
  cases change with
  | write op => exact before.write_records op
  | post target message => exact before.post_records target message
  | mark message => exact before.mark_records message
  | enlist behavior stopped record =>
    exact .of_eq [_] (fun _ => rfl) rfl rfl (by simp)
  | aside notes store journal silent running =>
    refine .of_eq _ (fun id => by rw [store]) (by rw [store]) journal fun object op mem => ?_
    cases silent _ mem

/-- Whatever changes is noted. -/
theorem Changes.records (changes : Changes before after) : before.Records after := by
  induction changes with
  | refl => exact .refl _
  | tail _ change ih => exact ih.trans change.records

lemma Steps.records (steps : Steps before after) : before.Records after :=
  (StepsOrBreaks.changes (Steps.stepsOrBreaks steps)).records

end World

/-! ## Where records lead -/

namespace ActorConfig

/-- The fields of a record. -/
def fieldNames : List String :=
  ["interface", "inbox", "context", "behavior", "function", "children", "schemas"]

/-- A record leads to an object: to its inbox, or to the context of its actor. -/
def LeadsTo (record : Json) (object : Id) : Prop :=
  inboxOf? record = some object ∨
    ∃ config, ofJson? record = some config ∧ (config.inbox = object ∨ config.context = object)

instance (record : Json) (object : Id) : Decidable (LeadsTo record object) :=
  decidable_of_iff (inboxOf? record = some object ∨
      (ofJson? record).any fun config => config.inbox = object ∨ config.context = object) <|
    or_congr_right (by simp [Option.any_eq_true])

/-- Another field makes no difference to where a record leads. -/
lemma leadsTo_insert {fields : List (String × Json)} {name : String} {value : Json} {object : Id}
    (other : name ∉ fieldNames) :
    LeadsTo (.obj (Assoc.insert name value fields)) object ↔ LeadsTo (.obj fields) object := by
  have field : ∀ wanted ∈ fieldNames, (Json.obj (Assoc.insert name value fields)).field? wanted =
      (Json.obj fields).field? wanted := fun wanted mem =>
    (Assoc.find?_insert _ _ _ _).trans (if_neg fun same : name = wanted => other (same ▸ mem))
  simp only [fieldNames, List.forall_mem_cons] at field
  obtain ⟨interface, inbox, context, behavior, function, children, schemas, -⟩ := field
  simp only [LeadsTo, inboxOf?, ofJson?, Json.named?, Json.required?, Json.optional?,
    Json.defaulted?, Option.bind_eq_bind, Option.bind_some, interface, inbox, context, behavior,
    function, children, schemas]

/-- A record without an inbox leads nowhere. -/
lemma not_leadsTo {fields : List (String × Json)} {object : Id}
    (missing : Assoc.find? "inbox" fields = none) : ¬ LeadsTo (.obj fields) object := by
  rintro (leads | ⟨config, read, -⟩)
  · rw [inboxOf?, Json.field?_obj, missing] at leads
    cases leads
  · simp only [ofJson?, Json.named?, Option.bind_eq_bind, Option.bind_some,
      Option.bind_eq_some_iff] at read
    obtain ⟨_, -, inbox, found, -⟩ := read
    rw [Json.required?, Json.field?_obj, missing] at found
    cases found

end ActorConfig

namespace Store

variable {store after : Store} {object id : Id}

/-- The record of an actor leads to an object. -/
def LeadsTo (store : Store) (id object : Id) : Prop :=
  ∃ record, store.read id = some record ∧ ActorConfig.LeadsTo record object

lemma LeadsTo.of_read_eq (leads : after.LeadsTo id object) (same : after.read id = store.read id) :
    store.LeadsTo id object := by
  obtain ⟨record, found, leads⟩ := leads
  exact ⟨record, same ▸ found, leads⟩

/-- What is put in place of a value led there before, if it leads anywhere. -/
lemma LeadsTo.of_put {value : Json} (leads : (store.put id value).LeadsTo id object) :
    ActorConfig.LeadsTo value object := by
  obtain ⟨record, found, leads⟩ := leads
  rw [read_put, if_pos rfl] at found
  exact Option.some.inj found ▸ leads

/-- A mark leads nowhere. -/
lemma leadsTo_mark {message : Id} {answer : Json}
    (done : store.update message (.obj [("processed", .bool true)]) = .ok (answer, after))
    (leads : after.LeadsTo id object) : store.LeadsTo id object := by
  obtain ⟨current, found, -, rfl⟩ := update_ok done
  by_cases same : message = id
  · subst same
    refine ⟨current, found, ?_⟩
    have leads := leads.of_put
    cases current with
    | obj fields =>
      rw [Json.merge_single rfl rfl, ActorConfig.leadsTo_insert (by decide)] at leads
      exact leads
    | _ => exact absurd leads (ActorConfig.not_leadsTo rfl)
  · exact leads.of_read_eq ((read_put _ _ _ _).trans (if_neg same))

/-- An inbox with one more entry leads where it led. -/
lemma leadsTo_push {inbox : Id} {item answer : Json}
    (done : store.push inbox Inbox.entriesField item = .ok (answer, after))
    (leads : after.LeadsTo id object) : store.LeadsTo id object := by
  obtain ⟨current, items, found, listed, rfl⟩ := push_ok done
  by_cases same : inbox = id
  · subst same
    refine ⟨current, found, ?_⟩
    have leads := leads.of_put
    cases current with
    | obj fields => exact (ActorConfig.leadsTo_insert (by decide)).1 leads
    | _ => cases listed
  · exact leads.of_read_eq ((read_put _ _ _ _).trans (if_neg same))

/-- A new message leads nowhere. -/
lemma leadsTo_withMessage {target : Id} {message : Message}
    (leads : (Inbox.withMessage store target message).LeadsTo id object) :
    store.LeadsTo id object := by
  by_cases same : store.supply.next = id
  · subst same
    refine absurd leads.of_put ?_
    rw [Entry.toJson, Json.record]
    refine ActorConfig.not_leadsTo ?_
    rw [Assoc.find?_ofList]
    cases source : message.source <;> cases correlation : message.correlation <;>
      simp [Entry.pending, source, correlation, Json.present, Assoc.find?_cons]
  · exact leads.of_read_eq ((read_put _ _ _ _).trans (if_neg same))

end Store

namespace World

variable {world first before after : World} {object id : Id}

/-- A record that leads to an object after a write led there before, or it was written. -/
lemma leadsTo_write {op : StoreOp} (leads : (world.write op).2.store.LeadsTo id object) :
    world.store.LeadsTo id object ∨ world.Newly (world.write op).2 (.wrote id op) := by
  rcases world.write_cases op with ⟨reads, -, -⟩ | ⟨written, others, -, journal⟩
  · exact .inl (leads.of_read_eq (reads id))
  · by_cases same : id = written
    · exact .inr ((newly_iff [_] journal).2 (List.mem_singleton.2 (by rw [same])))
    · exact .inl (leads.of_read_eq (others id same))

lemma leadsTo_mark {message : Id} (leads : (world.mark message).store.LeadsTo id object) :
    world.store.LeadsTo id object := by
  rcases world.mark_cases message with ⟨answer, store, done, marked⟩ | unmarked
  · rw [marked] at leads
    exact Store.leadsTo_mark done (leads.of_read_eq (read_withStore world store id))
  · rw [unmarked] at leads
    exact leads.of_read_eq (read_withStore world _ id)

/-- A post leads nowhere: a message has no inbox, and an inbox has one more entry. -/
lemma leadsTo_post {target : Id} {message : Message}
    (leads : (world.post target message).2.store.LeadsTo id object) :
    world.store.LeadsTo id object := by
  rcases world.post_cases target message with
    ⟨inbox, answer, store, -, pushed, stored, -⟩ | ⟨store, either, done⟩
  · rw [stored] at leads
    exact Store.leadsTo_withMessage (Store.leadsTo_push pushed (leads.of_read_eq rfl))
  · rw [done] at leads
    have leads : store.LeadsTo id object := leads.of_read_eq (read_withStore _ store id)
    rcases either with rfl | rfl
    · exact leads
    · exact Store.leadsTo_withMessage leads

/-- The inbox of an actor that does not run is the one that its record names. -/
lemma exists_record_of_inboxOf {target : Id}
    (home : Inbox.inboxOf (some world.store) none target = .ok object) :
    ∃ record, world.store.read target = some record ∧
      ActorConfig.inboxOf? record = some object := by
  simp only [Inbox.inboxOf, Inbox.readConfig, bind, Except.bind] at home
  cases read : world.store.read target with
  | none =>
    rw [read] at home
    cases home
  | some record =>
    rw [read] at home
    dsimp only at home
    split at home
    · rename_i inbox named
      cases home
      exact ⟨record, rfl, named⟩
    · cases home

lemma leadsTo_of_inboxOf {target : Id}
    (home : Inbox.inboxOf (some world.store) none target = .ok object) :
    world.store.LeadsTo target object := by
  obtain ⟨record, read, named⟩ := exists_record_of_inboxOf home
  exact ⟨record, read, .inl named⟩

/-- The configuration of an actor is what its record says. -/
lemma exists_record_of_actorConfig {actor : Id} {config : ActorConfig}
    (record : world.actorConfig actor = .ok config) :
    ∃ content, world.store.read actor = some content ∧
      ActorConfig.ofJson? content = some config := by
  simp only [actorConfig, Inbox.readConfig, bind, Except.bind] at record
  cases read : world.store.read actor with
  | none =>
    rw [read] at record
    cases record
  | some content =>
    rw [read] at record
    dsimp only at record
    split at record
    · rename_i decoded
      cases record
      exact ⟨content, rfl, decoded⟩
    · cases record

lemma leadsTo_of_actorConfig {actor : Id} {config : ActorConfig}
    (record : world.actorConfig actor = .ok config)
    (which : config.inbox = object ∨ config.context = object) :
    world.store.LeadsTo actor object := by
  obtain ⟨content, read, decoded⟩ := exists_record_of_actorConfig record
  exact ⟨content, read, .inr ⟨config, decoded, which⟩⟩

/-- A record of an actor that did not run at first may lead to an object: it led there at first,
or it was written since. -/
def Points (first now : World) (id object : Id) : Prop :=
  first.running.contains id = false ∧
    (first.store.LeadsTo id object ∨ ∃ op, first.Newly now (.wrote id op))

lemma Points.right (points : first.Points before id object)
    (journal : before.journal <:+ after.journal) : first.Points after id object :=
  ⟨points.1, points.2.imp_right fun ⟨op, new⟩ => ⟨op, new.right journal⟩⟩

/-- What leads to an object now led there at first, or was written since. -/
structure Routes (first : World) (object : Id) (now : World) : Prop where
  /-- What happened stays, -/
  journal : first.journal <:+ now.journal
  /-- and so do the records of running actors. -/
  kept : ∀ id old, first.running.find? id = some old →
    ∃ new, now.running.find? id = some new ∧ new.config = old.config
  /-- Records lead to the object that may do so. -/
  records : ∀ id, first.running.contains id = false → now.store.LeadsTo id object →
    first.Points now id object
  /-- An actor that was started from another record has nothing to do with the object. -/
  started : ∀ id new, first.running.contains id = false → now.running.find? id = some new →
    new.config.inbox = object ∨ new.config.context = object → first.Points now id object
  /-- A message was put into the object only as the inbox of a running actor, or if the record of
  its target may lead there. -/
  posted : ∀ message, first.Newly now (.posted message object) → ∃ target,
    first.Delivers now target object ∧
      ((∃ old, first.running.find? target = some old ∧ old.config.inbox = object) ∨
        first.Points now target object)

namespace Routes

protected lemma refl (world : World) (object : Id) : world.Routes object world where
  journal := List.suffix_refl _
  kept _ old found := ⟨old, found, rfl⟩
  records _ stopped leads := ⟨stopped, .inl leads⟩
  started id new stopped found := by
    rw [Table.contains, found] at stopped
    cases stopped
  posted message new := by cases (newly_iff [] rfl).1 new

/-- Nothing leads elsewhere, and nothing is posted. -/
lemma of_kept (routes : first.Routes object before) (notes : List Note)
    (journal : after.journal = notes ++ before.journal)
    (leads : ∀ id, after.store.LeadsTo id object → before.store.LeadsTo id object ∨
      ∃ op, before.Newly after (.wrote id op))
    (silent : ∀ message, .posted message object ∉ notes)
    (running : ∀ id, (after.running.find? id).map Running.config =
      (before.running.find? id).map Running.config) : first.Routes object after where
  journal := routes.journal.trans (journal ▸ List.suffix_append _ _)
  kept id old found := by
    obtain ⟨mid, there, config⟩ := routes.kept id old found
    have same := running id
    rw [there] at same
    obtain ⟨new, there, eq⟩ := Option.map_eq_some_iff.1 same
    exact ⟨new, there, eq.trans config⟩
  records id stopped there := by
    rcases leads id there with early | ⟨op, wrote⟩
    · exact (routes.records id stopped early).right (journal ▸ List.suffix_append _ _)
    · exact ⟨stopped, .inr ⟨op, wrote.left routes.journal⟩⟩
  started id new stopped found which := by
    have same := running id
    rw [found] at same
    obtain ⟨old, there, eq⟩ := Option.map_eq_some_iff.1 same.symm
    exact (routes.started id old stopped there (eq ▸ which)).right
      (journal ▸ List.suffix_append _ _)
  posted message new := by
    have grown : before.journal <:+ after.journal := journal ▸ List.suffix_append _ _
    rcases new.cases routes.journal grown with early | late
    · obtain ⟨target, delivers, points⟩ := routes.posted message early
      exact ⟨target, delivers.right grown, points.imp_right (·.right grown)⟩
    · exact absurd ((newly_iff _ journal).1 late) (silent message)

/-- The object is the inbox of a running actor, or the record of the actor may lead to it. -/
lemma of_inboxOf (routes : first.Routes object before) {target : Id}
    (home : Inbox.inboxOf (some before.store) (before.liveInbox? target) target = .ok object) :
    (∃ old, first.running.find? target = some old ∧ old.config.inbox = object) ∨
      first.Points before target object := by
  cases ran : first.running.find? target with
  | some old =>
    obtain ⟨new, found, config⟩ := routes.kept target old ran
    rw [liveInbox?, found] at home
    exact .inl ⟨old, rfl, config ▸ Except.ok.inj home⟩
  | none =>
    have stopped : first.running.contains target = false := by rw [Table.contains, ran]; rfl
    refine .inr ?_
    cases runs : before.running.find? target with
    | some new =>
      rw [liveInbox?, runs] at home
      exact routes.started target new stopped runs (.inl (Except.ok.inj home))
    | none =>
      rw [liveInbox?, runs] at home
      exact routes.records target stopped (leadsTo_of_inboxOf home)

lemma post (routes : first.Routes object before) (target : Id) (message : Message) :
    first.Routes object (before.post target message).2 := by
  have running := (before.post_storeFrame target message).running
  have leads : ∀ id, (before.post target message).2.store.LeadsTo id object →
      before.store.LeadsTo id object ∨ ∃ op, before.Newly (before.post target message).2
        (.wrote id op) := fun id there => .inl (leadsTo_post there)
  have same : ∀ id, ((before.post target message).2.running.find? id).map Running.config =
      (before.running.find? id).map Running.config := fun id => by rw [running]
  rcases before.post_cases target message with
    ⟨inbox, answer, store, home, -, -, noted⟩ | ⟨store, -, done⟩
  · by_cases other : inbox = object
    · subst other
      have quiet : first.Routes inbox { (before.post target message).2 with
          journal := before.journal } :=
        routes.of_kept [] rfl (fun id there => .inl (leadsTo_post there)) (by simp) same
      have grown : before.journal <:+ (before.post target message).2.journal :=
        (before.post_storeFrame target message).suffix
      refine ⟨routes.journal.trans grown, quiet.kept,
        fun id stopped there => (quiet.records id stopped there).right grown,
        fun id new stopped found which => (quiet.started id new stopped found which).right grown,
        fun id new => ?_⟩
      rcases new.cases routes.journal grown with early | late
      · obtain ⟨target, delivers, points⟩ := routes.posted id early
        exact ⟨target, delivers.right grown, points.imp_right (·.right grown)⟩
      · exact ⟨target, .left routes.journal ⟨_, message, [], [], noted⟩,
          (routes.of_inboxOf home).imp_right (·.right grown)⟩
    · refine routes.of_kept [_, _] noted leads (fun id mem => ?_) same
      simp [Ne.symm other] at mem
  · rw [done] at leads same ⊢
    exact routes.of_kept [_] (withStore_journal _ _) leads (by simp) same

/-- An actor is entered among the running ones as its record says. -/
lemma enlist (routes : first.Routes object before) {actor : Id} {config : ActorConfig}
    (behavior : Behavior) (stopped : before.running.contains actor = false)
    (record : before.actorConfig actor = .ok config) :
    first.Routes object (before.enlist actor config behavior) := by
  have grown : before.journal <:+ (before.enlist actor config behavior).journal :=
    List.suffix_cons _ _
  have found : ∀ id, (before.enlist actor config behavior).running.find? id =
      if actor = id then (before.enlist actor config behavior).running.find? actor
      else before.running.find? id := by
    intro id
    by_cases same : actor = id
    · rw [if_pos same, same]
    · rw [if_neg same]
      exact (Table.find?_insert _ _ _ _).trans (if_neg same)
  refine ⟨routes.journal.trans grown, fun id old ran => ?_, fun id still leads => ?_,
    fun id new still there which => ?_, fun message new => ?_⟩
  · obtain ⟨new, there, same⟩ := routes.kept id old ran
    have other : actor ≠ id := by
      rintro rfl
      rw [Table.contains, there] at stopped
      cases stopped
    exact ⟨new, (found id).trans ((if_neg other).trans there), same⟩
  · exact (routes.records id still (leads.of_read_eq rfl)).right grown
  · by_cases same : actor = id
    · subst same
      have entered : new.config = config := by
        rw [World.enlist] at there
        dsimp only at there
        rw [Table.find?_insert, if_pos rfl] at there
        cases there
        rfl
      exact (routes.records actor still (leadsTo_of_actorConfig record (entered ▸ which))).right grown
    · rw [found, if_neg same] at there
      exact (routes.started id new still there which).right grown
  · rcases new.cases routes.journal grown with early | late
    · obtain ⟨target, delivers, points⟩ := routes.posted message early
      exact ⟨target, delivers.right grown, points.imp_right (·.right grown)⟩
    · cases List.mem_singleton.1 ((newly_iff [_] rfl).1 late)

lemma change (routes : first.Routes object before) (change : Change before after) :
    first.Routes object after := by
  cases change with
  | write op =>
    have running : ∀ id, ((before.write op).2.running.find? id).map Running.config =
        (before.running.find? id).map Running.config := fun id => by
      rw [(before.write_storeFrame op).running]
    have leads : ∀ id, (before.write op).2.store.LeadsTo id object →
        before.store.LeadsTo id object ∨ ∃ op', before.Newly (before.write op).2 (.wrote id op') :=
      fun id there => (leadsTo_write there).imp_right fun new => ⟨op, new⟩
    rcases before.write_cases op with ⟨-, -, journal⟩ | ⟨written, -, -, journal⟩
    · exact routes.of_kept [] journal leads (by simp) running
    · exact routes.of_kept [_] journal leads (by simp) running
  | post target message => exact routes.post target message
  | mark message =>
    have running : ∀ id, ((before.mark message).running.find? id).map Running.config =
        (before.running.find? id).map Running.config := fun id => by
      rw [(before.mark_storeFrame message).running]
    obtain ⟨notes, journal, marks⟩ := before.mark_journal message
    refine routes.of_kept _ journal (fun id there => .inl (leadsTo_mark there)) (fun id mem => ?_) running
    rcases marks with rfl | rfl
    · cases mem
    · cases List.mem_singleton.1 mem
  | enlist behavior stopped record => exact routes.enlist behavior stopped record
  | aside notes store journal silent running =>
    refine routes.of_kept _ journal (fun id there => .inl (there.of_read_eq (by rw [store])))
      (fun id mem => ?_) running
    cases silent _ mem

end Routes

/-- What leads to an object after any number of changes led there at first, or was written. -/
theorem Changes.routes (changes : Changes before after) (object : Id) :
    before.Routes object after := by
  induction changes with
  | refl => exact .refl _ _
  | tail _ change ih => exact ih.change change

end World

end Troupe
