import Troupe.Proofs.World.Mail

/-!
# Places of actors in their inboxes

A move leaves the actors where they are in their inboxes, or one of them looks for its next
entry, or one begins at the start of its inbox: `World.Shift`.  Since an inbox lists what was
posted to it, a look comes to the messages that follow in it, and it takes none that was marked.

## Main results

* `World.Move.shift`: what a move does to the places of actors;
* `World.Placed.shift`: the journal stays rightly kept.
-/

namespace Troupe.World

open Journal

variable {world before after : World} {actor other inbox : Id}

/-! ## What a move does to places -/

/-- What a move does to the places of actors in their inboxes. -/
inductive Shift (before after : World) : Prop
  /-- No actor begins, and none comes to another entry. -/
  | still (notes : List Note)
    (kept : ∀ other new, after.running.find? other = some new →
      ∃ old, before.running.find? other = some old ∧ new.config = old.config ∧
        new.cursor = old.cursor)
    (journal : after.journal = notes ++ before.journal)
    (silent : ∀ note ∈ notes, note.isTurn = false)
  /-- An actor looks for the next entry in its inbox. -/
  | look {actor : Id} {running : Running} {look : Inbox.Look}
    (found : before.running.find? actor = some running)
    (looked : look = before.lookFor running
      (Inbox.listed before.store running.config.inbox))
    (kept : ∀ other new, after.running.find? other = some new →
      ∃ old, before.running.find? other = some old ∧ new.config = old.config ∧
        new.cursor = if actor = other then look.cursor else old.cursor)
    (journal : after.journal = lookNotes actor running.config.inbox look ++ before.journal)
  /-- An actor begins at the start of its inbox. -/
  | start {actor : Id} {config : ActorConfig}
    (kept : ∀ other new, after.running.find? other = some new →
      (actor = other ∧ new.config = config ∧ new.cursor = 0) ∨
        (actor ≠ other ∧ ∃ old, before.running.find? other = some old ∧
          new.config = old.config ∧ new.cursor = old.cursor))
    (journal : after.journal = .spawned actor config.inbox :: before.journal)

/-- What an actor is doing and what its behavior remembers has nothing to do with its place. -/
lemma find?_updateRunning_kept {change : Running → Running} {new : Running}
    (config : ∀ running, (change running).config = running.config)
    (cursor : ∀ running, (change running).cursor = running.cursor)
    (found : (world.updateRunning actor change).running.find? other = some new) :
    ∃ old, world.running.find? other = some old ∧ new.config = old.config ∧
      new.cursor = old.cursor := by
  obtain ⟨old, there, rfl⟩ := find?_updateRunning_some found
  refine ⟨old, there, ?_⟩
  split
  · exact ⟨config old, cursor old⟩
  · exact ⟨rfl, rfl⟩

lemma find?_turnTo_kept {activity : Activity} {new : Running}
    (found : (world.turnTo actor activity).running.find? other = some new) :
    ∃ old, world.running.find? other = some old ∧ new.config = old.config ∧
      new.cursor = old.cursor :=
  find?_updateRunning_kept (fun _ => by rfl) (fun _ => by rfl) found

namespace Shift

/-- The running actors stay. -/
lemma of_running (notes : List Note) (running : after.running = before.running)
    (journal : after.journal = notes ++ before.journal)
    (silent : ∀ note ∈ notes, note.isTurn = false) : Shift before after :=
  .still notes (fun _ new found => ⟨new, running ▸ found, rfl, rfl⟩) journal silent

lemma of_quiet (running : after.running = before.running)
    (journal : after.journal = before.journal) : Shift before after :=
  of_running [] running journal fun _ none => nomatch none

lemma of_note (note : Note) (running : after.running = before.running)
    (journal : after.journal = note :: before.journal) (silent : note.isTurn = false) :
    Shift before after :=
  of_running [note] running journal fun _ mem => List.mem_singleton.1 mem ▸ silent

lemma of_storeFrame (storeFrame : before.StoreFrame after) : Shift before after := by
  obtain ⟨notes, journal, ofStore⟩ := storeFrame.journal
  refine of_running notes storeFrame.running journal fun note mem => ?_
  have store := ofStore note mem
  cases note <;> first | rfl | cases store

/-- Something about one actor changes that has nothing to do with its place. -/
lemma of_updateRunning {change : Running → Running}
    (config : ∀ running, (change running).config = running.config)
    (cursor : ∀ running, (change running).cursor = running.cursor)
    (running : after.running = (before.updateRunning actor change).running)
    (journal : after.journal = before.journal) : Shift before after := by
  refine .still [] (fun other new found => ?_) journal fun _ none => nomatch none
  rw [running] at found
  exact find?_updateRunning_kept config cursor found

/-- Where the actors are after one has picked an entry. -/
lemma find?_pick_kept {ready : ReadyQueue} {running new : Running} {listed : List Id}
    (there : (pick { before with ready } actor running listed).2.running.find? other = some new) :
    ∃ old, before.running.find? other = some old ∧ new.config = old.config ∧
      new.cursor =
        if actor = other then (before.lookFor running listed).cursor else old.cursor := by
  rw [find?_pick] at there
  split_ifs at there ⊢
  · obtain ⟨old, found, eq⟩ := Option.map_eq_some_iff.1 there
    cases eq
    exact ⟨old, found, rfl, rfl⟩
  · exact ⟨new, there, rfl, rfl⟩

/-- Picking an entry, or finding none. -/
lemma of_pick {ready : ReadyQueue} {running : Running}
    (found : before.running.find? actor = some running) :
    Shift before (pick { before with ready } actor running
      (Inbox.listed before.store running.config.inbox)).2 :=
  .look found rfl (fun _ _ there => find?_pick_kept there) (pick_journal _ _ _ _)

/-- Picking an entry and turning to it. -/
lemma of_take {ready : ReadyQueue} {running : Running} {activity : Activity}
    (found : before.running.find? actor = some running) :
    Shift before ((pick { before with ready } actor running
      (Inbox.listed before.store running.config.inbox)).2.turnTo actor activity) := by
  refine .look found rfl (fun other new there => ?_)
    ((updateRunning_journal _ _ _).trans (pick_journal _ _ _ _))
  obtain ⟨old, there, config, cursor⟩ := find?_turnTo_kept there
  obtain ⟨older, there, config', cursor'⟩ := find?_pick_kept there
  exact ⟨older, there, config.trans config', cursor.trans cursor'⟩

end Shift

/-- What a step does to the places of actors. -/
lemma Step.shift (step : Step before after) : Shift before after := by
  cases step with
  | write op => exact .of_storeFrame (before.write_storeFrame op)
  | post target message => exact .of_storeFrame (before.post_storeFrame target message)
  | mark handles => exact .of_storeFrame (before.mark_storeFrame _)
  | tools | render | pump | skip => exact .of_quiet rfl rfl
  | remember actor memory =>
    exact .of_updateRunning (fun _ => by rfl) (fun _ => by rfl) rfl (updateRunning_journal _ _ _)
  | ask => exact .of_note _ rfl rfl rfl
  | accept =>
    rcases acceptReply_cases before _ _ _ with same | ⟨_, _, -, -, -, -, done⟩
    · rw [same]
      exact .of_quiet rfl rfl
    · rw [done]
      exact .of_note _ rfl rfl rfl
  | pass next found => exact .of_pick found
  | take next found => exact .of_take found
  | finish =>
    split
    · exact .of_updateRunning (fun _ => by rfl) (fun _ => by rfl) rfl (updateRunning_journal _ _ _)
    · exact .of_updateRunning (fun _ => by rfl) (fun _ => by rfl) rfl (updateRunning_journal _ _ _)
  | started =>
    exact .of_updateRunning (fun _ => by rfl) (fun _ => by rfl) rfl (updateRunning_journal _ _ _)
  | @enlist actor config behavior stopped =>
    refine .start (fun other new found => ?_) (updateRunning_journal _ _ _)
    obtain ⟨old, found, sameConfig, sameCursor⟩ := find?_turnTo_kept found
    have entered := (Table.find?_insert _ _ _ _).symm.trans found
    split_ifs at entered with same
    · cases entered
      exact .inl ⟨same, sameConfig, sameCursor⟩
    · exact .inr ⟨same, old, entered, sameConfig, sameCursor⟩

/-- What an order does to the places of actors. -/
lemma Order.shift (order : Order before after) : Shift before after := by
  cases order with
  | makeInbox => exact .of_storeFrame before.makeInbox_storeFrame
  | make value => exact .of_storeFrame (before.make_storeFrame value)
  | own made owner => exact .of_storeFrame (before.own_storeFrame _ owner)
  | @dismiss actor running =>
    obtain ⟨notes, journal, silent⟩ := before.dismiss_journal actor running
    refine .still notes (fun other new found => ?_) journal fun note mem => (silent note mem).2
    rw [World.dismiss, Table.find?_erase] at found
    split_ifs at found
    exact ⟨new, found, rfl, rfl⟩
  | timeOut now =>
    obtain ⟨notes, journal, silent⟩ := before.timeOut_journal now
    exact .of_running notes rfl journal fun note mem => (silent note mem).2
  | unwatch token =>
    obtain ⟨watches, same⟩ := before.unwatch_frame token
    rw [same]
    exact .of_quiet rfl rfl
  | schedule | track | protect | watch | registerSchema | setTools | onRerender | setTime =>
    exact .of_quiet rfl rfl
  | restart config restored =>
    obtain ⟨store, -, rfl⟩ := restore?_some restored
    refine .still [.restored] (fun other new found => ?_) rfl fun note mem => ?_
    · cases found
    · rw [List.mem_singleton.1 mem]
      rfl

/-- What a move does to the places of actors. -/
theorem Move.shift (move : Move before after) : Shift before after := by
  rcases move with (step | ⟨-, -⟩ | -) | order
  · exact step.shift
  · exact .of_updateRunning (fun _ => by rfl) (fun _ => by rfl) rfl (updateRunning_journal _ _ _)
  · exact .of_quiet rfl rfl
  · exact order.shift

/-! ## The journal stays rightly kept -/

/-- What one looks at is of no one else's place. -/
lemma place?_append_lookNotes {look : Inbox.Look} (ne : actor ≠ other) (earlier : List Note) :
    place? other (lookNotes actor inbox look ++ earlier) = place? other earlier := by
  have skip : ∀ notes : List Note, (∀ note ∈ notes, ∃ position message found,
      note.Looks actor inbox position message found) →
      place? other (notes ++ earlier) = place? other earlier := by
    intro notes looks
    induction notes with
    | nil => rfl
    | cons note notes ih =>
      obtain ⟨_, _, _, here⟩ := looks note List.mem_cons_self
      rw [List.cons_append, place?_looks here, if_neg ne,
        ih fun note mem => looks note (List.mem_cons_of_mem _ mem)]
  exact skip _ fun note mem => looks_of_mem mem

/-- An entry that is passed over first is noted first. -/
lemma lookNotes_pass (actor inbox : Id) (look : Inbox.Look) (skip : Inbox.Skip) :
    lookNotes actor inbox { look with passed := skip :: look.passed } =
      lookNotes actor inbox look ++
        [.passed actor inbox skip.position skip.message skip.found] := by
  simp [lookNotes]

/-- A look through the messages that follow in an inbox comes to each of them in turn, takes
none that was marked and stops where the cursor then is. -/
lemma along_look {store : Store} {position : Nat} {ids : List Id} {earlier : List Note}
    (along : Along Rightly earlier) (place : place? actor earlier = some (inbox, position))
    (follow : ids = (posts inbox earlier).drop position)
    (processed : ∀ message entry, .marked message ∈ earlier →
      (store.read message).bind Entry.ofJson? = some entry → entry.processed = true) :
    Along Rightly (lookNotes actor inbox (Inbox.look store position ids) ++ earlier) ∧
      place? actor (lookNotes actor inbox (Inbox.look store position ids) ++ earlier) =
        some (inbox, (Inbox.look store position ids).cursor) := by
  induction ids generalizing position earlier with
  | nil => exact ⟨along, place⟩
  | cons id rest ih =>
    -- the next message of the inbox is looked at
    have here : (posts inbox earlier)[position]? = some id := by
      rw [← Nat.add_zero position, ← List.getElem?_drop, ← follow]
      rfl
    unfold Inbox.look
    dsimp only
    split
    · rename_i entry found
      obtain ⟨read, open_⟩ := Option.filter_eq_some_iff.1 found
      have unprocessed : entry.processed = false := by simpa using open_
      refine ⟨⟨⟨place, here, unprocessed, fun marked => ?_⟩, along⟩, ?_⟩
      · rw [processed id entry marked read] at unprocessed
        cases unprocessed
      · refine (place?_looks (.taken entry) actor earlier).trans ?_
        rw [if_pos rfl, place]
        rfl
    · rename_i none
      have passable : Inbox.Passable ((store.read id).bind Entry.ofJson?) := by
        intro entry found
        simpa using Option.filter_eq_none_iff.1 none entry found
      rw [lookNotes_pass, List.append_assoc]
      refine ih ⟨⟨place, here, passable⟩, along⟩ ?_ ?_ fun message entry marked read => ?_
      · refine (place?_looks (.passed _) actor earlier).trans ?_
        rw [if_pos rfl, place]
        rfl
      · change rest = (posts inbox earlier).drop (position + 1)
        rw [← List.drop_drop, ← follow]
        rfl
      · exact processed message entry (by simpa using marked) read

/-- Every running actor is where the journal has it, in an inbox that the runtime made, and the
journal is rightly kept. -/
structure Placed (world : World) : Prop where
  /-- The cursor of an actor is behind the last entry that it has looked at. -/
  place : ∀ actor running, world.running.find? actor = some running →
    place? actor world.journal = some (running.config.inbox, running.cursor)
  /-- The runtime has made its inbox. -/
  home : ∀ actor running, world.running.find? actor = some running →
    .made running.config.inbox ∈ world.journal
  /-- Every entry that was looked at was the next one. -/
  rightly : Along Rightly world.journal

namespace Placed

/-- No actor runs at first. -/
lemma first (config : Config) (store : Store) (correlations : Supply) (clock : Clock) :
    (World.new config store correlations clock).Placed where
  place _ _ found := by cases found
  home _ _ found := by cases found
  rightly := trivial

/-- Whatever moves, the journal stays rightly kept, if actors begin with inboxes that the
runtime made. -/
theorem shift (placed : before.Placed) (filed : before.Filed) (shift : Shift before after)
    (orderly : Orderly after.journal) : after.Placed := by
  cases shift with
  | still notes kept journal silent =>
    refine ⟨fun actor new found => ?_, fun actor new found => ?_, ?_⟩
    · obtain ⟨old, found, config, cursor⟩ := kept actor new found
      rw [journal, place?_append_of_not_turn silent, placed.place actor old found, config, cursor]
    · obtain ⟨old, found, config, -⟩ := kept actor new found
      rw [journal, config]
      exact List.mem_append_right _ (placed.home actor old found)
    · rw [journal]
      exact along_rightly_append silent placed.rightly
  | @look actor running look found looked kept journal =>
    have place := placed.place actor running found
    -- the inbox lists what the journal says was posted, so the look goes on where the journal is
    obtain ⟨along, now⟩ := along_look placed.rightly place
      (congrArg (List.drop _) (filed.listed (placed.home actor running found)))
      fun message entry => filed.processed
    rw [← lookFor, ← looked] at along now
    refine ⟨fun other new there => ?_, fun other new there => ?_, journal ▸ along⟩
    · obtain ⟨old, there, sameConfig, cursor⟩ := kept other new there
      by_cases same : actor = other
      · subst same
        rw [found] at there
        cases there
        rw [journal, sameConfig, cursor, if_pos rfl]
        exact now
      · rw [journal, place?_append_lookNotes same, placed.place other old there, sameConfig, cursor,
          if_neg same]
    · obtain ⟨old, there, sameConfig, -⟩ := kept other new there
      rw [journal, sameConfig]
      exact List.mem_append_right _ (placed.home other old there)
  | @start actor config kept journal =>
    have made : .made config.inbox ∈ before.journal := by
      rw [journal] at orderly
      exact orderly.1
    refine ⟨fun other new found => ?_, fun other new found => ?_, ?_⟩
    · rw [journal, place?_spawned]
      rcases kept other new found with ⟨same, sameConfig, cursor⟩ |
        ⟨ne, old, found, sameConfig, cursor⟩
      · rw [if_pos same, sameConfig, cursor]
      · rw [if_neg ne, placed.place other old found, sameConfig, cursor]
    · rw [journal]
      rcases kept other new found with ⟨-, sameConfig, -⟩ | ⟨-, old, found, sameConfig, -⟩
      · rw [sameConfig]
        exact List.mem_cons_of_mem _ made
      · rw [sameConfig]
        exact List.mem_cons_of_mem _ (placed.home other old found)
    · rw [journal]
      exact ⟨trivial, placed.rightly⟩

end Placed

end Troupe.World
