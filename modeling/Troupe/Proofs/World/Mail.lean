import Troupe.Proofs.Store.Reload
import Troupe.Proofs.World.Journal
import Troupe.Proofs.World.Moves

/-!
# Inboxes and messages in the store

While nobody but the runtime writes them, an inbox lists the messages that were posted to it, in
their order, and a message that was marked says so: `World.Filed`.  A post appends one message
to one inbox, a mark and the entry of an owner put one field into one object, and what was saved
and loaded reads as it did.

## Main results

* `World.Filed.step`, `World.Filed.order`: every step and every order keeps the inboxes filed;
* `World.Filed.listed`: an inbox lists what was posted to it.
-/

namespace Troupe

/-! ## Objects and some of their fields -/

namespace Json

/-- A patch of one field that is no object and not null puts this field in place. -/
lemma merge_single {fields : List (String × Json)} {name : String} {value : Json}
    (plain : value.isObject = false) (there : value.isNull = false) :
    (Json.obj fields).merge (.obj [(name, value)]) = .obj (Assoc.insert name value fields) := by
  cases value with
  | null => cases there
  | obj => cases plain
  | _ => simp [merge, mergeFields, fieldsOf, isNull]

end Json

/-- A store holds an object whose fields are in order, and among them those that are wanted. -/
def Store.Holds (store : Store) (id : Id) (wanted : String → Json → Prop) : Prop :=
  ∃ fields, store.read id = some (.obj fields) ∧ Assoc.Sorted fields ∧
    ∀ name value, wanted name value → Assoc.find? name fields = some value

namespace Store.Holds

variable {store after : Store} {id : Id} {wanted wanted' : String → Json → Prop}

lemma mono (holds : store.Holds id wanted)
    (less : ∀ name value, wanted' name value → wanted name value) : store.Holds id wanted' := by
  obtain ⟨fields, found, sorted, all⟩ := holds
  exact ⟨fields, found, sorted, fun name value want => all name value (less name value want)⟩

lemma of_read_eq (holds : store.Holds id wanted) (same : after.read id = store.read id) :
    after.Holds id wanted := by
  obtain ⟨fields, found, sorted, all⟩ := holds
  exact ⟨fields, same.trans found, sorted, all⟩

/-- A field is put into the object. -/
lemma insert {fields : List (String × Json)} {name : String} {value : Json}
    (sorted : Assoc.Sorted fields)
    (all : ∀ other content, wanted other content → Assoc.find? other fields = some content)
    (now : after.read id = some (.obj (Assoc.insert name value fields)))
    (less : ∀ other content, wanted' other content →
      (other = name ∧ content = value) ∨ (other ≠ name ∧ wanted other content)) :
    after.Holds id wanted' := by
  refine ⟨_, now, Assoc.sorted_insert name value sorted, fun other content want => ?_⟩
  rw [Assoc.find?_insert]
  rcases less other content want with ⟨rfl, rfl⟩ | ⟨ne, want⟩
  · rw [if_pos rfl]
  · rw [if_neg (Ne.symm ne), all other content want]

/-- A patch of one field of some object puts this field in place at most. -/
lemma patched {object : Id} {name : String} {value answer : Json} (holds : store.Holds id wanted)
    (plain : value.isObject = false) (there : value.isNull = false)
    (done : store.update object (.obj [(name, value)]) = .ok (answer, after))
    (less : ∀ other content, wanted' other content →
      (id = object ∧ other = name ∧ content = value) ∨
        ((id = object → other ≠ name) ∧ wanted other content)) : after.Holds id wanted' := by
  obtain ⟨fields, found, sorted, all⟩ := holds
  obtain ⟨current, found', -, rfl⟩ := update_ok done
  by_cases same : id = object
  · subst same
    rw [found] at found'
    cases found'
    refine insert sorted all ?_ fun other content want =>
      (less other content want).imp And.right (And.imp_left fun ne => ne rfl)
    rw [read_put, if_pos rfl, Json.merge_single plain there]
  · refine ⟨fields, ?_, sorted, fun other content want => ?_⟩
    · rw [read_put, if_neg (Ne.symm same), found]
    · rcases less other content want with ⟨eq, -⟩ | ⟨-, want⟩
      · exact absurd eq same
      · exact all other content want

/-- An item is pushed to a list of some object. -/
lemma pushed {object : Id} {field : String} {item answer : Json} (holds : store.Holds id wanted)
    (done : store.push object field item = .ok (answer, after))
    (less : ∀ other content, wanted' other content →
      (id = object ∧ other = field ∧
        ∃ items, wanted field (.arr items) ∧ content = .arr (items ++ [item])) ∨
        ((id = object → other ≠ field) ∧ wanted other content)) : after.Holds id wanted' := by
  obtain ⟨fields, found, sorted, all⟩ := holds
  obtain ⟨current, items, found', listed, rfl⟩ := push_ok done
  by_cases same : id = object
  · subst same
    rw [found] at found'
    cases found'
    refine insert sorted all (by rw [read_put, if_pos rfl]; rfl) fun other content want => ?_
    rcases less other content want with ⟨-, rfl, old, wantOld, rfl⟩ | ⟨ne, want⟩
    · -- the list that was wanted is the one that is pushed to
      rw [listIn, all _ _ wantOld] at listed
      cases listed
      exact .inl ⟨rfl, rfl⟩
    · exact .inr ⟨ne rfl, want⟩
  · refine ⟨fields, ?_, sorted, fun other content want => ?_⟩
    · rw [read_put, if_neg (Ne.symm same), found]
    · rcases less other content want with ⟨eq, -⟩ | ⟨-, want⟩
      · exact absurd eq same
      · exact all other content want

/-- What reads as it was written is still there when the store was saved and loaded. -/
lemma reload (holds : store.Holds id wanted) (reloaded : store.reload? = some after)
    (plain : ∀ name value, wanted name value → value.Fixed) : after.Holds id wanted := by
  obtain ⟨fields, found, sorted, all⟩ := holds
  have kept := Store.read_of_reload? reloaded id
  rw [found] at kept
  cases loaded : after.read id with
  | none =>
    rw [loaded] at kept
    exact kept.elim
  | some content =>
    rw [loaded] at kept
    obtain ⟨new, rfl, sortedNew, each⟩ := Json.Survives.obj kept (Assoc.nodup_of_sorted sorted)
    refine ⟨new, loaded, sortedNew, fun name value want => ?_⟩
    have field := each name
    rw [all name value want] at field
    cases now : Assoc.find? name new with
    | none =>
      rw [now] at field
      exact field.elim
    | some content =>
      rw [now] at field
      rw [plain name value want content field]

end Store.Holds

/-- A message that says of itself that it was handled is decoded as one. -/
lemma Entry.processed_of_ofJson? {fields : List (String × Json)} {entry : Entry} {value : Bool}
    (read : Entry.ofJson? (.obj fields) = some entry)
    (field : Assoc.find? "processed" fields = some (.bool value)) : entry.processed = value := by
  simp only [Entry.ofJson?, Json.named?, Option.bind_eq_bind, Option.bind_some,
    Option.bind_eq_some_iff, Option.pure_def, Option.some.injEq] at read
  obtain ⟨_, -, _, -, _, -, _, -, _, -, processed, decoded, rfl⟩ := read
  rw [Json.required?, Json.field?_obj, field] at decoded
  exact (Option.some.inj decoded).symm

namespace World

open Journal

variable {world before after : World} {notes : List Note}

/-! ## What moves write -/

lemma read_withStore (world : World) (store : Store) (id : Id) :
    (world.withStore store).store.read id = store.read id := by
  rw [withStore_store]
  rfl

lemma read_apply (world : World) (op : StoreOp) (id : Id) :
    (world.apply op).2.store.read id = (world.store.execute op).2.read id :=
  read_withStore world _ id

lemma make_supply (world : World) (value : Json) :
    (world.make value).2.store.supply = world.store.supply.advance := by
  rw [make, apply, withStore_store]
  rfl

lemma make_journal (world : World) (value : Json) :
    (world.make value).2.journal = world.journal := apply_journal world (.create value none)

lemma read_make (world : World) (value : Json) (id : Id) :
    (world.make value).2.store.read id =
      if world.store.supply.next = id then some value else world.store.read id :=
  (read_apply world (.create value none) id).trans (Store.read_put _ _ _ _)

/-- A message is marked, or it is refused and nothing happens. -/
lemma mark_cases (world : World) (message : Id) :
    (∃ answer store,
      world.store.update message (.obj [("processed", .bool true)]) = .ok (answer, store) ∧
      world.mark message = (world.withStore store).note (.marked message)) ∨
    world.mark message = world.withStore world.store := by
  unfold mark apply
  cases done : world.store.update message (.obj [("processed", .bool true)]) with
  | error cause =>
    have refused : world.store.apply (.update message _) = .error cause := done
    rw [Store.execute_of_apply_error refused]
    exact .inr rfl
  | ok result =>
    rw [Store.execute, Store.apply, done]
    exact .inl ⟨result.1, result.2, rfl, rfl⟩

/-- What is noted when a message is to be marked. -/
lemma mark_journal (world : World) (message : Id) : ∃ marks,
    (world.mark message).journal = marks ++ world.journal ∧
      (marks = [] ∨ marks = [.marked message]) := by
  rcases mark_cases world message with ⟨-, store, -, marked⟩ | unmarked
  · exact ⟨[.marked message], by simp [marked, note], .inr rfl⟩
  · exact ⟨[], by simp [unmarked], .inl rfl⟩

section Post

variable {target inbox : Id} {message : Message}

lemma post_of_error {error : RuntimeError}
    (lost : Inbox.inboxOf (some world.store) (world.liveInbox? target) target = .error error) :
    (world.post target message).2 = (world.note (.sent target message)).withStore world.store := by
  simp only [post, Inbox.post, lost]

lemma post_of_append {result : Except RuntimeError Id} {store : Store}
    (routed : Inbox.inboxOf (some world.store) (world.liveInbox? target) target = .ok inbox)
    (done : Inbox.append world.store inbox target message = (result, store)) :
    (world.post target message).2 = match result with
      | .ok id => (((world.note (.sent target message)).withStore store).note
          (.posted id inbox)).wake target
      | .error _ => (world.note (.sent target message)).withStore store := by
  simp only [post, Inbox.post, routed, done]
  cases result <;> rfl

lemma wake_store (world : World) (actor : Id) : (world.wake actor).store = world.store := by
  unfold wake
  split <;> rfl

/-- A post lists a new message in an inbox, or it lists nothing and at most leaves a new object
behind. -/
lemma post_cases (world : World) (target : Id) (message : Message) :
    (∃ inbox answer store,
      Inbox.inboxOf (some world.store) (world.liveInbox? target) target = .ok inbox ∧
      (Inbox.withMessage world.store target message).push inbox
        Inbox.entriesField (.id world.store.supply.next) = .ok (answer, store) ∧
      (world.post target message).2.store = { store with calls := [] } ∧
      (world.post target message).2.journal =
        .posted world.store.supply.next inbox :: .sent target message :: world.journal) ∨
    (∃ store, (store = world.store ∨ store = Inbox.withMessage world.store target message) ∧
      (world.post target message).2 = (world.note (.sent target message)).withStore store) := by
  cases routed : Inbox.inboxOf (some world.store) (world.liveInbox? target) target with
  | error error => exact .inr ⟨world.store, .inl rfl, post_of_error routed⟩
  | ok inbox =>
    rcases Inbox.append_cases world.store inbox target message with
      ⟨answer, store, pushed, done⟩ | ⟨error, done⟩
    · rw [post_of_append routed done]
      refine .inl ⟨inbox, answer, store, rfl, pushed, ?_, ?_⟩
      · rw [wake_store]
        exact withStore_store _ _
      · rw [wake_journal]
        simp [note]
    · exact .inr ⟨_, .inr rfl, post_of_append routed done⟩

end Post

/-- What is noted of a look is that entries were looked at. -/
lemma looks_of_mem {actor inbox : Id} {look : Inbox.Look} {note : Note}
    (mem : note ∈ lookNotes actor inbox look) :
    ∃ position message found, note.Looks actor inbox position message found := by
  rcases List.mem_append.1 mem with taken | passed
  · obtain ⟨next, -, rfl⟩ := Option.map_eq_some_iff.1 (Option.mem_toList.1 taken)
    exact ⟨_, _, _, .taken _⟩
  · obtain ⟨skip, -, rfl⟩ := List.mem_map.1 (List.mem_reverse.1 passed)
    exact ⟨_, _, _, .passed _⟩

/-- What is noted when an actor is stopped is neither of mail nor of turns. -/
lemma dismiss_journal (world : World) (actor : Id) (running : Running) :
    ∃ notes, (world.dismiss actor running).journal = notes ++ world.journal ∧
      ∀ note ∈ notes, note.isMail = false ∧ note.isTurn = false := by
  refine ⟨(world.pending.filter fun _ ask => ask.asker == actor).keys.map (.abandoned · actor) ++
    [.stopped actor], by simp [dismiss], fun note mem => ?_⟩
  rcases List.mem_append.1 mem with mem | mem
  · obtain ⟨correlation, -, rfl⟩ := List.mem_map.1 mem
    exact ⟨rfl, rfl⟩
  · cases List.mem_singleton.1 mem
    exact ⟨rfl, rfl⟩

/-- Nor is what is noted when asks time out. -/
lemma timeOut_journal (world : World) (now : Int) :
    ∃ notes, (world.timeOut now).journal = notes ++ world.journal ∧
      ∀ note ∈ notes, note.isMail = false ∧ note.isTurn = false := by
  refine ⟨_, rfl, fun note mem => ?_⟩
  obtain ⟨entry, -, rfl⟩ := List.mem_map.1 mem
  exact ⟨rfl, rfl⟩

/-! ## Filed inboxes and messages -/

/-- What an inbox or a message shows. -/
inductive Shows (journal : List Note) (object : Id) : String → Json → Prop
  /-- An inbox lists the messages that were posted to it. -/
  | entries (made : .made object ∈ journal) :
    Shows journal object Inbox.entriesField (.arr ((posts object journal).map .id))
  /-- A message tells whether it was marked. -/
  | processed {inbox : Id} {value : Bool} (posted : .posted object inbox ∈ journal)
    (marked : value = true ↔ .marked object ∈ journal) :
    Shows journal object "processed" (.bool value)

lemma Shows.of_append (silent : ∀ note ∈ notes, note.isMail = false) {object : Id} {name : String}
    {value : Json} {journal : List Note} (shows : Shows (notes ++ journal) object name value) :
    Shows journal object name value := by
  cases shows with
  | entries made =>
    rw [posts_append_of_not_mail object silent]
    exact .entries ((mem_append_of_not_mail silent rfl).1 made)
  | processed posted marked =>
    exact .processed ((mem_append_of_not_mail silent rfl).1 posted)
      (marked.trans (mem_append_of_not_mail silent rfl))

/-- Inboxes and messages are in the store as the journal has them. -/
structure Filed (world : World) : Prop where
  /-- Every object has its identifier from the supply, -/
  stored : ∀ id, (world.store.read id).isSome → world.store.supply.Minted id
  /-- and so has every inbox and message, -/
  reserved : ∀ id, Reserved world.journal id → world.store.supply.Minted id
  /-- and whatever a message was posted to. -/
  target : ∀ message inbox, .posted message inbox ∈ world.journal →
    world.store.supply.Minted inbox
  /-- Inboxes and messages show what they should. -/
  shows : ∀ id, Reserved world.journal id → world.store.Holds id (Shows world.journal id)
  /-- Only messages are marked. -/
  marked : ∀ message, .marked message ∈ world.journal →
    ∃ inbox, .posted message inbox ∈ world.journal
  /-- No message is posted twice to an inbox. -/
  nodup : ∀ inbox, (posts inbox world.journal).Nodup

namespace Filed

/-- Nothing is known of inboxes and messages at first. -/
lemma first (config : Config) (supply : Supply) (correlations : Supply) (clock : Clock) :
    (World.new config (Store.empty supply) correlations clock).Filed where
  stored id there := by cases there
  reserved id reserved := by rcases reserved with made | ⟨_, posted⟩ <;> contradiction
  target _ _ posted := by cases posted
  shows id reserved := by rcases reserved with made | ⟨_, posted⟩ <;> contradiction
  marked _ marked := by cases marked
  nodup _ := List.nodup_nil

/-- New objects have their identifiers from the supply too. -/
lemma stored_after (filed : before.Filed) (supplies : before.store.Supplies after.store) {id : Id}
    (there : (after.store.read id).isSome) : after.store.supply.Minted id :=
  (supplies.origin id there).elim
    (fun early => (filed.stored id early).of_leads supplies.supply) fun new => new.minted

/-- Inboxes and messages show what they did, and nothing is noted of them. -/
lemma of_holds (filed : before.Filed) (notes : List Note) (supplies : before.store.Supplies after.store)
    (journal : after.journal = notes ++ before.journal)
    (silent : ∀ note ∈ notes, note.isMail = false)
    (holds : ∀ id, Reserved before.journal id →
      after.store.Holds id (Shows before.journal id)) : after.Filed := by
  have same : ∀ {id}, Reserved after.journal id → Reserved before.journal id := by
    intro id reserved
    rw [journal] at reserved
    exact (reserved_append_of_not_mail silent id).1 reserved
  have old : ∀ {note : Note}, note.isMail = true → note ∈ after.journal → note ∈ before.journal := by
    intro note mail mem
    rw [journal] at mem
    exact (mem_append_of_not_mail silent mail).1 mem
  refine ⟨fun _ => filed.stored_after supplies, fun id reserved => ?_,
    fun message inbox posted => ?_, fun id reserved => ?_, fun message marked => ?_,
    fun inbox => ?_⟩
  · exact (filed.reserved id (same reserved)).of_leads supplies.supply
  · exact (filed.target _ _ (old rfl posted)).of_leads supplies.supply
  · rw [journal]
    exact (holds id (same reserved)).mono fun name value shows => shows.of_append silent
  · obtain ⟨inbox, posted⟩ := filed.marked message (old rfl marked)
    exact ⟨inbox, journal ▸ List.mem_append_right _ posted⟩
  · rw [journal, posts_append_of_not_mail inbox silent]
    exact filed.nodup inbox

/-- Inboxes and messages stay, and nothing is noted of them. -/
lemma of_reads (filed : before.Filed) (notes : List Note)
    (supplies : before.store.Supplies after.store)
    (journal : after.journal = notes ++ before.journal)
    (silent : ∀ note ∈ notes, note.isMail = false)
    (reads : ∀ id, Reserved before.journal id → after.store.read id = before.store.read id) :
    after.Filed :=
  filed.of_holds notes supplies journal silent fun id reserved =>
    (filed.shows id reserved).of_read_eq (reads id reserved)

/-- Inboxes and messages stay, and nothing is noted at all. -/
lemma of_quiet (filed : before.Filed) (supplies : before.store.Supplies after.store)
    (journal : after.journal = before.journal)
    (reads : ∀ id, Reserved before.journal id → after.store.read id = before.store.read id) :
    after.Filed :=
  filed.of_reads [] supplies journal (fun _ none => nomatch none) reads

/-- Inboxes and messages stay, and something else is noted. -/
lemma of_note (filed : before.Filed) (note : Note) (supplies : before.store.Supplies after.store)
    (journal : after.journal = note :: before.journal) (silent : note.isMail = false)
    (reads : ∀ id, Reserved before.journal id → after.store.read id = before.store.read id) :
    after.Filed :=
  filed.of_reads [note] supplies journal
    (fun _ mem => List.mem_singleton.1 mem ▸ silent) reads

/-- An inbox lists what was posted to it. -/
lemma listed (filed : world.Filed) {inbox : Id} (made : .made inbox ∈ world.journal) :
    Inbox.listed world.store inbox = posts inbox world.journal := by
  obtain ⟨fields, found, -, all⟩ := filed.shows inbox (.inl made)
  have items : ∀ list : List Id, (list.map Json.id).filterMap Json.id? = list := by
    intro list
    induction list with
    | nil => rfl
    | cons id rest ih => rw [List.map_cons, List.filterMap_cons, Json.id?_id, ih]
  rw [Inbox.listed, found, Option.map_some, Option.getD_some, Inbox.entries, Json.field?_obj,
    all _ _ (.entries made)]
  exact items _

/-- The mark of a message is in the store if and only if it is noted. -/
lemma mark_iff (filed : world.Filed) {message inbox : Id}
    (posted : .posted message inbox ∈ world.journal) :
    ∃ value, (world.store.read message).bind (Json.field? · "processed") = some (.bool value) ∧
      (value = true ↔ .marked message ∈ world.journal) := by
  obtain ⟨fields, stored, -, all⟩ := filed.shows message (.inr ⟨inbox, posted⟩)
  classical
  refine ⟨decide (.marked message ∈ world.journal), ?_, decide_eq_true_iff⟩
  rw [stored, Option.bind_some, Json.field?_obj]
  exact all _ _ (.processed posted decide_eq_true_iff)

/-- A message that was marked is read as one that was handled. -/
lemma processed (filed : world.Filed) {message : Id} {entry : Entry}
    (marked : .marked message ∈ world.journal)
    (found : (world.store.read message).bind Entry.ofJson? = some entry) :
    entry.processed = true := by
  obtain ⟨inbox, posted⟩ := filed.marked message marked
  obtain ⟨fields, stored, -, all⟩ := filed.shows message (.inr ⟨inbox, posted⟩)
  rw [stored, Option.bind_some] at found
  exact Entry.processed_of_ofJson? found
    (all _ _ (.processed posted ⟨fun _ => marked, fun _ => rfl⟩))

/-! ## Moves -/

/-- An identifier that is about to be handed out is none of the runtime's own. -/
lemma ne_next (filed : world.Filed) (fresh : world.store.supply.advance.Fresh) {id : Id}
    (reserved : Reserved world.journal id) : id ≠ world.store.supply.next :=
  (filed.reserved id reserved).ne_next fresh

/-- A write to an object that is nobody's but the writer's. -/
lemma write (filed : world.Filed) (op : StoreOp)
    (permitted : ∀ object, world.store.written? op = some object →
      ¬ Reserved world.journal object) : (world.write op).2.Filed := by
  have supplies := (world.write_storeFrame op).store.toSupplies
  rw [write_snd] at supplies ⊢
  rcases world.store.execute_cases op with ⟨nothing, same⟩ | ⟨object, written, write⟩
  · rw [nothing] at supplies ⊢
    refine filed.of_quiet supplies (apply_journal world op) fun id _ => ?_
    exact (read_apply world op id).trans (congrArg (Store.read · id) same)
  · rw [written] at supplies ⊢
    refine filed.of_note (.wrote object op) supplies
      (congrArg (List.cons _) (apply_journal world op)) rfl fun id reserved => ?_
    have other : id ≠ object := by
      rintro rfl
      exact permitted id written reserved
    exact (read_apply world op id).trans (write.read_other id other)

/-- A new object that no one knows of. -/
lemma make (filed : world.Filed) (value : Json)
    (fresh : (world.make value).2.store.supply.Fresh) : (world.make value).2.Filed := by
  rw [make_supply] at fresh
  refine filed.of_quiet (world.make_storeFrame value).store.toSupplies (make_journal world value)
    fun id reserved => ?_
  rw [read_make, if_neg (Ne.symm (filed.ne_next fresh reserved))]

/-- A new inbox lists nothing, and nothing was posted to it. -/
lemma makeInbox (filed : world.Filed) (fresh : world.makeInbox.2.store.supply.Fresh) :
    world.makeInbox.2.Filed := by
  obtain ⟨made, journal⟩ : (world.make (.obj [(Inbox.entriesField, .arr [])])).2.Filed ∧
      world.makeInbox.2.journal = .made world.store.supply.next :: world.journal :=
    ⟨filed.make _ fresh, congrArg (List.cons _) (make_journal world _)⟩
  replace fresh : world.store.supply.advance.Fresh :=
    make_supply world (.obj [(Inbox.entriesField, .arr [])]) ▸ fresh
  have posted : ∀ inbox, posts inbox world.makeInbox.2.journal = posts inbox world.journal := by
    intro inbox
    rw [journal]
    rfl
  refine ⟨made.stored, fun id reserved => ?_, fun message inbox mem => ?_, fun id reserved => ?_,
    fun message mem => ?_, fun inbox => posted inbox ▸ filed.nodup inbox⟩
  · rw [journal, reserved_made] at reserved
    rcases reserved with rfl | reserved
    · exact make_supply world _ ▸ world.store.supply.minted_next
    · exact made.reserved id (make_journal world _ ▸ reserved)
  · rw [journal] at mem
    exact made.target message inbox (make_journal world _ ▸ by simpa using mem)
  · rw [journal, reserved_made] at reserved
    rw [journal]
    rcases reserved with rfl | reserved
    · -- the new inbox
      refine ⟨_, (read_make world _ _).trans (if_pos rfl), List.pairwise_singleton _ _,
        fun name value shows => ?_⟩
      cases shows with
      | entries _ =>
        have none : posts world.store.supply.next world.journal = [] :=
          List.eq_nil_iff_forall_not_mem.2 fun message mem =>
            (filed.target _ _ (mem_posts.1 mem)).ne_next fresh rfl
        rw [← journal, posted, none]
        rfl
      | processed mem _ =>
        exact absurd rfl (filed.ne_next fresh (.inr ⟨_, by simpa using mem⟩))
    · refine (made.shows id (make_journal world _ ▸ reserved)).mono fun name value shows => ?_
      rw [make_journal]
      cases shows with
      | entries there =>
        refine .entries ?_
        simpa [filed.ne_next fresh reserved] using there
      | processed mem marked =>
        exact .processed (by simpa using mem) (marked.trans (by simp))
  · rw [journal] at mem ⊢
    obtain ⟨inbox, posted⟩ := filed.marked message (by simpa using mem)
    exact ⟨inbox, List.mem_cons_of_mem _ posted⟩

/-- The owner of an inbox is in a field of its own. -/
lemma own (filed : world.Filed) (inbox owner : Id) : (world.own inbox owner).2.Filed := by
  refine filed.of_holds [] (world.own_storeFrame inbox owner).store.toSupplies
    (apply_journal world _) (fun _ none => nomatch none) fun id reserved => ?_
  suffices holds : (world.store.execute (.update inbox _)).2.Holds id (Shows world.journal id) from
    holds.of_read_eq (read_apply world _ id)
  cases done : world.store.update inbox (.obj [("owner", .id owner)]) with
  | error cause =>
    have refused : world.store.apply (.update inbox _) = .error cause := done
    rw [Store.execute_of_apply_error refused]
    exact filed.shows id reserved
  | ok result =>
    rw [Store.execute, Store.apply, done]
    refine (filed.shows id reserved).patched rfl rfl done fun other content shows =>
      .inr ⟨fun _ => ?_, shows⟩
    cases shows <;> decide

/-- A message that is marked shows it. -/
lemma mark (filed : world.Filed) {message inbox : Id}
    (posted : .posted message inbox ∈ world.journal) : (world.mark message).Filed := by
  have supplies := (world.mark_storeFrame message).store.toSupplies
  rcases world.mark_cases message with ⟨answer, store, done, marked⟩ | refused
  · have journal : (world.mark message).journal = .marked message :: world.journal := by
      rw [marked, note, withStore_journal]
    constructor
    case stored => exact fun _ => filed.stored_after supplies
    case reserved =>
      intro id reserved
      rw [journal, reserved_marked] at reserved
      exact (filed.reserved id reserved).of_leads supplies.supply
    case target =>
      intro other inbox mem
      rw [journal] at mem
      exact (filed.target other inbox (by simpa using mem)).of_leads supplies.supply
    case shows =>
      intro id reserved
      rw [journal, reserved_marked] at reserved
      rw [journal, marked]
      refine Store.Holds.of_read_eq ?_ (read_withStore world store id)
      refine (filed.shows id reserved).patched rfl rfl done fun name value shows => ?_
      cases shows with
      | entries made => exact .inr ⟨fun _ => by decide, .entries (by simpa using made)⟩
      | processed mem flag =>
        -- the message itself shows that it was handled, any other what it showed
        by_cases same : id = message
        · subst same
          exact .inl ⟨rfl, rfl, congrArg Json.bool (flag.2 List.mem_cons_self)⟩
        · refine .inr ⟨fun eq => absurd eq same, .processed (by simpa using mem) (flag.trans ?_)⟩
          simp [same]
    case marked =>
      intro other mem
      rw [journal] at mem ⊢
      rcases List.mem_cons.1 mem with same | mem
      · cases same
        exact ⟨inbox, List.mem_cons_of_mem _ posted⟩
      · obtain ⟨inbox, posted⟩ := filed.marked other mem
        exact ⟨inbox, List.mem_cons_of_mem _ posted⟩
    case nodup =>
      intro inbox
      rw [journal]
      exact filed.nodup inbox
  · rw [refused] at supplies ⊢
    exact filed.of_quiet supplies (withStore_journal _ _) fun id _ => read_withStore _ _ id

/-- A new message has not been handled. -/
lemma holds_withMessage (store : Store) (target : Id) (message : Message) :
    (Inbox.withMessage store target message).Holds store.supply.next
      fun name value => name = "processed" ∧ value = .bool false := by
  refine ⟨_, (Store.read_put _ _ _ _).trans (if_pos rfl), Assoc.sorted_ofList _, ?_⟩
  rintro name value ⟨rfl, rfl⟩
  rw [Assoc.find?_ofList, Entry.pending]
  cases message.source <;> cases message.correlation <;> simp [Json.present, Assoc.find?_cons]

section Push

variable {target inbox : Id} {message : Message} {answer : Json} {store : Store}
  (filed : before.Filed)
  (pushed : (Inbox.withMessage before.store target message).push inbox Inbox.entriesField
    (.id before.store.supply.next) = .ok (answer, store))

include filed pushed

/-- A message that is new to the journal shows that it was not handled. -/
lemma shows_pushed (new : ¬ Reserved before.journal before.store.supply.next) :
    store.Holds before.store.supply.next
      (Shows (.posted before.store.supply.next inbox :: before.journal)
        before.store.supply.next) := by
  refine (holds_withMessage before.store target message).pushed pushed fun name value shows => ?_
  cases shows with
  | entries made => exact absurd (.inl (by simpa using made)) new
  | @processed _ value _ flag =>
    refine .inr ⟨fun _ => by decide, rfl, ?_⟩
    cases value with
    | false => rfl
    | true => exact absurd (.inr (filed.marked _ (by simpa using flag.1 rfl))) new

/-- Inboxes and messages that the journal knows show the post, and what they showed before. -/
lemma shows_beside_pushed {id : Id} (reserved : Reserved before.journal id)
    (other : id ≠ before.store.supply.next) :
    store.Holds id (Shows (.posted before.store.supply.next inbox :: before.journal) id) := by
  refine ((filed.shows id reserved).of_read_eq ?_).pushed pushed fun name value shows => ?_
  · exact (Inbox.write_withMessage before.store target message).read_other id other
  · cases shows with
    | entries mem =>
      have made : .made id ∈ before.journal := by simpa using mem
      rw [posts_posted]
      -- the entry is appended to the inbox that it was posted to, and the journal lists it there
      by_cases same : inbox = id
      · rw [if_pos same, List.map_append]
        exact .inl ⟨same.symm, rfl, _, .entries made, rfl⟩
      · rw [if_neg same, List.append_nil]
        exact .inr ⟨fun eq => absurd eq.symm same, .entries made⟩
    | processed mem flag =>
      have posted := List.mem_of_ne_of_mem (fun same => other (Note.posted.inj same).1) mem
      exact .inr ⟨fun _ => by decide, .processed posted (flag.trans (by simp))⟩

/-- A message that is listed in an inbox is new, and the last one there. -/
lemma of_push (supplies : before.store.Supplies after.store)
    (fresh : after.store.supply.Fresh) (stored : after.store = { store with calls := [] })
    (journal : after.journal = .posted before.store.supply.next inbox :: before.journal) :
    after.Filed := by
  have supply : after.store.supply = before.store.supply.advance := by
    obtain ⟨current, items, -, -, rfl⟩ := Store.push_ok pushed
    rw [stored]
    rfl
  rw [supply] at fresh
  -- the new identifier is that of no inbox and no message so far
  have new : ¬ Reserved before.journal before.store.supply.next :=
    fun reserved => filed.ne_next fresh reserved rfl
  constructor
  case stored => exact fun _ => filed.stored_after supplies
  case reserved =>
    intro id reserved
    rw [journal, reserved_posted] at reserved
    rcases reserved with rfl | reserved
    · exact supply ▸ before.store.supply.minted_next
    · exact (filed.reserved id reserved).of_leads supplies.supply
  case target =>
    intro other at_ mem
    rw [journal] at mem
    rcases List.mem_cons.1 mem with same | mem
    · cases same
      refine filed.stored_after supplies ?_
      obtain ⟨current, items, -, -, rfl⟩ := Store.push_ok pushed
      rw [stored]
      exact Option.isSome_iff_exists.2 ⟨_, (Store.read_put _ _ _ _).trans (if_pos rfl)⟩
    · exact (filed.target other at_ mem).of_leads supplies.supply
  case shows =>
    intro id reserved
    rw [journal, reserved_posted] at reserved
    rw [journal, stored]
    suffices holds : store.Holds id (Shows _ id) from holds.of_read_eq rfl
    rcases reserved with rfl | reserved
    · exact filed.shows_pushed pushed new
    · exact filed.shows_beside_pushed pushed reserved (filed.ne_next fresh reserved)
  case marked =>
    intro other mem
    rw [journal] at mem ⊢
    obtain ⟨inbox, posted⟩ := filed.marked other (by simpa using mem)
    exact ⟨inbox, List.mem_cons_of_mem _ posted⟩
  case nodup =>
    intro at_
    rw [journal, posts_posted]
    split_ifs
    · refine List.nodup_append.2 ⟨filed.nodup at_, List.nodup_singleton _, ?_⟩
      rintro other mem next last rfl
      exact new (.inr ⟨at_, mem_posts.1 (List.mem_singleton.1 last ▸ mem)⟩)
    · rw [List.append_nil]
      exact filed.nodup at_

end Push

/-- A post. -/
lemma post (filed : world.Filed) (target : Id) (message : Message)
    (fresh : (world.post target message).2.store.supply.Fresh) :
    (world.post target message).2.Filed := by
  have supplies := (world.post_storeFrame target message).store.toSupplies
  have sent : (world.note (.sent target message)).Filed :=
    filed.of_note (.sent target message) (.refl _) rfl rfl fun _ _ => rfl
  rcases world.post_cases target message with
    ⟨inbox, answer, store, -, pushed, stored, journal⟩ | ⟨store, either, done⟩
  · exact sent.of_push pushed supplies fresh stored journal
  · rw [done] at supplies fresh ⊢
    refine sent.of_quiet supplies (withStore_journal _ _) fun id reserved => ?_
    rw [read_withStore]
    rcases either with rfl | rfl
    · rfl
    · rw [withStore_store] at fresh
      exact (Inbox.write_withMessage _ _ _).read_other id (sent.ne_next fresh reserved)

/-- Saving and loading. -/
lemma restart {config : Config} (filed : before.Filed)
    (restored : before.restore? config = some after) : after.Filed := by
  obtain ⟨store, reloaded, rfl⟩ := restore?_some restored
  refine filed.of_holds [.restored] (Store.supplies_of_reload? reloaded) rfl
    (by simp [Note.isMail]) fun id reserved => ?_
  refine (filed.shows id reserved).reload reloaded fun name value shows => ?_
  cases shows with
  | entries => exact Json.fixed_ids _
  | processed => exact fun _ => Json.Survives.bool

/-- The store stays, and so does what is noted of mail. -/
lemma of_store (filed : before.Filed) (notes : List Note) (store : after.store = before.store)
    (journal : after.journal = notes ++ before.journal)
    (silent : ∀ note ∈ notes, note.isMail = false) : after.Filed :=
  filed.of_reads notes (store ▸ .refl _) journal silent fun _ _ => by rw [store]

/-- Every step keeps inboxes and messages filed, if others write none of them. -/
theorem step (step : Step before after) (filed : before.Filed)
    (fresh : after.store.supply.Fresh) (orderly : Orderly after.journal)
    (taken : ∀ actor inbox position message entry,
      .taken actor inbox position message entry ∈ before.journal →
      .posted message inbox ∈ before.journal) : after.Filed := by
  have still : ∀ {world : World}, world.store = before.store → world.journal = before.journal →
      world.Filed :=
    fun store journal => filed.of_store [] store journal fun _ none => nomatch none
  cases step with
  | write op =>
    refine filed.write op fun object written => ?_
    rw [write_snd, written] at orderly
    exact apply_journal before op ▸ orderly.1
  | post target message => exact filed.post target message fresh
  | mark handles =>
    obtain ⟨position, -, noted⟩ := handles.taken
    exact filed.mark (taken _ _ _ _ _ noted)
  | tools | render | pump | skip => exact still rfl rfl
  | remember => exact still (updateRunning_store _ _ _) (updateRunning_journal _ _ _)
  | ask => exact filed.of_note _ (.refl _) rfl rfl fun _ _ => rfl
  | accept =>
    rcases acceptReply_cases before _ _ _ with same | ⟨_, _, -, -, -, -, done⟩
    · rwa [same]
    · rw [done]
      exact filed.of_note _ (.refl _) rfl rfl fun _ _ => rfl
  | pass =>
    exact filed.of_store _ (pick_store _ _ _ _) (pick_journal _ _ _ _) fun note mem =>
      (looks_of_mem mem).elim fun _ ⟨_, _, looks⟩ => looks.not_mail
  | take =>
    refine filed.of_store _ ?_ ((updateRunning_journal _ _ _).trans (pick_journal _ _ _ _))
      fun note mem => (looks_of_mem mem).elim fun _ ⟨_, _, looks⟩ => looks.not_mail
    exact (updateRunning_store _ _ _).trans (pick_store _ _ _ _)
  | finish =>
    split <;> exact still (updateRunning_store _ _ _) (updateRunning_journal _ _ _)
  | started => exact still (updateRunning_store _ _ _) (updateRunning_journal _ _ _)
  | @enlist actor config behavior =>
    refine filed.of_note (.spawned actor config.inbox) ?_ (updateRunning_journal _ _ _) rfl
      fun id _ => ?_
    · rw [World.turnTo, updateRunning_store]
      exact .of_eq rfl rfl
    · rw [World.turnTo, updateRunning_store]
      rfl

/-- A pass that breaks off and a turn that does change nothing of them. -/
lemma stepOrBreak (stepOrBreak : StepOrBreak before after) (filed : before.Filed)
    (fresh : after.store.supply.Fresh) (orderly : Orderly after.journal)
    (taken : ∀ actor inbox position message entry,
      .taken actor inbox position message entry ∈ before.journal →
      .posted message inbox ∈ before.journal) : after.Filed := by
  cases stepOrBreak with
  | step step => exact filed.step step fresh orderly taken
  | breakOff =>
    exact filed.of_store [] (updateRunning_store _ _ _) (updateRunning_journal _ _ _)
      fun _ none => nomatch none
  | jam => exact filed.of_store [] rfl rfl fun _ none => nomatch none

/-- So does every order. -/
theorem order (order : Order before after) (filed : before.Filed)
    (fresh : after.store.supply.Fresh) : after.Filed := by
  have still : ∀ {world : World}, before.store.Supplies world.store →
      world.store.read = before.store.read → world.journal = before.journal → world.Filed :=
    fun supplies reads journal => filed.of_quiet supplies journal fun id _ => congrFun reads id
  cases order with
  | makeInbox => exact filed.makeInbox fresh
  | make value => exact filed.make value fresh
  | own made owner => exact filed.own _ owner
  | dismiss =>
    obtain ⟨notes, journal, silent⟩ := before.dismiss_journal _ _
    exact filed.of_reads notes (.of_eq rfl rfl) journal (fun note mem => (silent note mem).1) fun _ _ => rfl
  | timeOut now =>
    obtain ⟨notes, journal, silent⟩ := before.timeOut_journal now
    exact filed.of_reads notes (.of_eq rfl rfl) journal (fun note mem => (silent note mem).1) fun _ _ => rfl
  | unwatch token =>
    obtain ⟨watches, same⟩ := before.unwatch_frame token
    rw [same]
    exact still (.of_eq rfl rfl) rfl rfl
  | schedule | track | protect | watch | registerSchema | setTools | onRerender | setTime =>
    exact still (.of_eq rfl rfl) rfl rfl
  | restart config restored => exact filed.restart restored

end Filed

end World

end Troupe
