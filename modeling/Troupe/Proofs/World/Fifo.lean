import Troupe.Proofs.World.Places

/-!
# Entries are handled in order, and once

Messages are handled in the order in which they were posted.  From its start on an actor takes
the entries of its inbox one after the other; it leaves out only those that cannot be read or
have been handled; and a message that was marked is taken by no one again, also after the
runtime began anew over its saved store.

## Main results

* `World.Moves.filed_placed`: the inboxes stay filed and the journal rightly kept;
* `Session.fifo`: what follows for the entries that actors handle.
-/

namespace Troupe

namespace World

open Journal Relation

variable {first last world before middle after : World}
variable {later earlier notes : List Note} {note : Note}
variable {actor inbox message : Id} {position : Nat} {found : Option Entry}

/-! ## Moves -/

lemma Order.supplies (order : Order before after) : before.store.Supplies after.store := by
  cases order with
  | makeInbox => exact before.makeInbox_storeFrame.store.toSupplies
  | make value => exact (before.make_storeFrame value).store.toSupplies
  | own made owner => exact (before.own_storeFrame _ owner).store.toSupplies
  | unwatch token =>
    obtain ⟨watches, same⟩ := before.unwatch_frame token
    rw [same]
    exact .of_eq rfl rfl
  | restart config restored =>
    obtain ⟨store, reloaded, rfl⟩ := restore?_some restored
    exact Store.supplies_of_reload? reloaded
  | _ => exact .of_eq rfl rfl

lemma Move.supplies (move : Move before after) : before.store.Supplies after.store := by
  rcases move with (step | ⟨-, -⟩ | -) | order
  · exact step.grows.toSupplies
  · rw [turnTo, updateRunning_store]
    exact .refl _
  · exact .refl _
  · exact order.supplies

lemma Moves.supplies (moves : Moves before after) : before.store.Supplies after.store := by
  induction moves with
  | refl => exact .refl _
  | tail _ move ih => exact ih.trans move.supplies

/-- Whatever moves, inboxes stay filed and the journal rightly kept, as long as new identifiers
are fresh and nobody but the runtime writes inboxes and messages. -/
theorem Moves.filed_placed (moves : Moves first last) (filed : first.Filed)
    (placed : first.Placed) (fresh : last.store.supply.Fresh) (orderly : Orderly last.journal) :
    last.Filed ∧ last.Placed := by
  induction moves with
  | refl => exact ⟨filed, placed⟩
  | @tail middle last _ move ih =>
    obtain ⟨filed, placed⟩ := ih (fresh.of_leads move.supplies.supply)
      (Along.of_suffix orderly move.suffix)
    -- what an actor has taken was posted
    have taken : ∀ actor inbox position message entry,
        .taken actor inbox position message entry ∈ middle.journal →
        .posted message inbox ∈ middle.journal := fun _ _ _ _ entry mem =>
      mem_posts.1 (List.mem_of_getElem? (posted_of_looks placed.rightly mem (.taken entry)))
    refine ⟨?_, placed.shift filed move.shift orderly⟩
    rcases move with stepOrBreak | order
    · exact filed.stepOrBreak stepOrBreak fresh orderly taken
    · exact filed.order order fresh

/-! ## What an actor reads -/

/-- A note that stands somewhere is one of the new ones or one of the old ones. -/
lemma note_cases {old : List Note} (eq : notes ++ old = later ++ note :: earlier) :
    (∃ later, old = later ++ note :: earlier) ∨
      (note ∈ notes ∧ old <:+ earlier) := by
  rcases List.append_eq_append_iff.1 eq with ⟨rest, -, split⟩ | ⟨rest, rfl, split⟩
  · exact .inl ⟨rest, split⟩
  · cases rest with
    | nil => exact .inl ⟨[], split.symm⟩
    | cons other rest =>
      obtain ⟨rfl, rfl⟩ := List.cons.inj split
      exact .inr ⟨List.mem_append_right _ List.mem_cons_self, List.suffix_append _ _⟩

/-- What is noted of an entry is what a look has found. -/
lemma found_of_mem {store : Store} {place : Nat} {ids : List Id} {looker home : Id}
    (mem : note ∈ lookNotes looker home (Inbox.look store place ids))
    (looks : note.Looks actor inbox position message found) :
    (store.read message).bind Entry.ofJson? = found := by
  have spec := Inbox.look_spec store place ids
  rcases List.mem_append.1 mem with taken | passed
  · obtain ⟨⟨place, message, entry⟩, next, rfl⟩ :=
      Option.map_eq_some_iff.1 (Option.mem_toList.1 taken)
    cases looks
    exact (spec.next _ _ _ next).2.2.1
  · obtain ⟨skip, skipped, rfl⟩ := List.mem_map.1 (List.mem_reverse.1 passed)
    cases looks
    exact (spec.reasons skip skipped).1.symm

/-- Where an actor looked at an entry, it found what the store held at that time. -/
lemma Moves.read (moves : Moves first last) (looks : note.Looks actor inbox position message found)
    (noted : last.journal = later ++ note :: earlier) :
    note ∈ first.journal ∨ ∃ world, Moves first world ∧ Moves world last ∧
      world.journal <:+ earlier ∧ (world.store.read message).bind Entry.ofJson? = found := by
  induction moves generalizing later with
  | refl => exact .inl (noted ▸ List.mem_append_right _ List.mem_cons_self)
  | @tail middle last moves move ih =>
    -- the note was there already, or it is one of this move
    obtain ⟨notes, journal, new⟩ : ∃ notes, last.journal = notes ++ middle.journal ∧
        (note ∈ notes → (middle.store.read message).bind Entry.ofJson? = found) := by
      cases move.shift with
      | still notes kept journal silent =>
        refine ⟨notes, journal, fun mem => ?_⟩
        have turn := silent note mem
        cases looks <;> cases turn
      | look there looked kept journal =>
        exact ⟨_, journal, fun mem => found_of_mem (looked ▸ mem) looks⟩
      | @start actor config kept journal =>
        refine ⟨[.spawned actor config.inbox], journal, fun mem => ?_⟩
        cases List.mem_singleton.1 mem
        cases looks
    rcases note_cases (journal ▸ noted) with ⟨later, old⟩ | ⟨mem, suffix⟩
    · refine (ih old).imp_right fun ⟨world, before, after, rest⟩ => ?_
      exact ⟨world, before, after.tail move, rest⟩
    · exact .inr ⟨middle, moves, .single move, suffix, new mem⟩

/-! ## The order of entries -/

/-- How actors handle the entries of their inboxes. -/
structure InOrder (first last : World) : Prop where
  /-- As long as an actor does not begin anew, the entries that it handles stand one behind the
  other in one inbox, and no message is among them twice. -/
  increasing : ∀ {later middle earlier actor inbox inbox' position position' message message'
      entry entry'},
    last.journal = later ++ .taken actor inbox' position' message' entry' ::
      (middle ++ .taken actor inbox position message entry :: earlier) →
    (∀ other, .spawned actor other ∉ middle) →
    inbox' = inbox ∧ position < position' ∧ message' ≠ message
  /-- What it handles at a place is what was posted there. -/
  posted : ∀ {actor inbox position message entry},
    .taken actor inbox position message entry ∈ last.journal →
    (posts inbox last.journal)[position]? = some message
  /-- Since it began it has looked at every entry before one that it handles. -/
  covered : ∀ {later earlier actor inbox position message entry},
    last.journal = later ++ .taken actor inbox position message entry :: earlier →
    ∀ place, place < position → ∃ middle note older message found,
      earlier = middle ++ note :: older ∧ (∀ other, .spawned actor other ∉ middle) ∧
      note.Looks actor inbox place message found
  /-- A running actor has looked at every entry before its cursor. -/
  behind : ∀ {actor running}, last.running.find? actor = some running →
    ∀ place, place < running.cursor → ∃ middle note older message found,
      last.journal = middle ++ note :: older ∧ (∀ other, .spawned actor other ∉ middle) ∧
      note.Looks actor running.config.inbox place message found
  /-- It passes over an entry only if the message cannot be read or decoded or has been
  handled. -/
  passed : ∀ {actor inbox position message found},
    .passed actor inbox position message found ∈ last.journal → Inbox.Passable found
  /-- For this it goes by what the store holds at that time. -/
  read : ∀ {later earlier note actor inbox position message found},
    last.journal = later ++ note :: earlier → note.Looks actor inbox position message found →
    ∃ world, Moves first world ∧ Moves world last ∧ world.journal <:+ earlier ∧
      (world.store.read message).bind Entry.ofJson? = found
  /-- The store holds the mark of a message if and only if the message was marked. -/
  mark : ∀ {message inbox}, .posted message inbox ∈ last.journal → ∃ value,
    (last.store.read message).bind (Json.field? · "processed") = some (.bool value) ∧
      (value = true ↔ .marked message ∈ last.journal)
  /-- Whoever runs, a message that was marked is not handled again. -/
  once : ∀ {later earlier message}, last.journal = later ++ .marked message :: earlier →
    ∀ actor inbox position entry, .taken actor inbox position message entry ∉ later

/-- Where inboxes are filed and the journal is rightly kept, entries are handled in order. -/
lemma Placed.inOrder (placed : last.Placed) (filed : last.Filed) (moves : Moves first last)
    (new : first.journal = []) : InOrder first last where
  increasing {later middle earlier actor inbox inbox' position position' message message' entry
      entry'} noted none := by
    have along := placed.rightly
    rw [noted] at along
    obtain ⟨rfl, lt⟩ := Journal.increasing along none (.taken entry) (.taken entry')
    refine ⟨rfl, lt, ?_⟩
    -- the two messages stand at different places of an inbox that lists none twice
    rintro rfl
    have first := posted_of_looks along
      (List.mem_append_right _ (List.mem_cons_of_mem _ (List.mem_append_right _
        List.mem_cons_self))) (.taken entry)
    have second := posted_of_looks along
      (List.mem_append_right _ List.mem_cons_self) (.taken entry')
    rw [← noted] at first second
    have there := (List.getElem?_eq_some_iff.1 first).1
    have same := (List.getElem?_inj there (filed.nodup inbox')).1 (first.trans second.symm)
    exact Nat.ne_of_lt lt same
  posted mem := posted_of_looks placed.rightly mem (.taken _)
  covered noted place lt := by
    have along := placed.rightly
    rw [noted] at along
    exact Journal.covered along.of_append.2 (along.at_note.looks (.taken _)).1 lt
  behind found place lt := Journal.covered placed.rightly (placed.place _ _ found) lt
  passed mem := by
    obtain ⟨later, earlier, noted⟩ := List.append_of_mem mem
    have along := placed.rightly
    rw [noted] at along
    exact along.at_note.2.2
  read noted looks := (moves.read looks noted).resolve_left (by simp [new])
  mark posted := filed.mark_iff posted
  once noted actor inbox position entry mem := by
    obtain ⟨before, between, rfl⟩ := List.append_of_mem mem
    have along := placed.rightly
    rw [noted, List.append_assoc, List.cons_append] at along
    exact along.at_note.2.2.2 (List.mem_append_right _ List.mem_cons_self)

end World

open World

/-- Entries are handled in the order of their delivery and at most once, in every session that
starts with an empty store, whatever is delivered, pumped, started, stopped, saved and loaded:
as long as identifiers are fresh, actors begin with inboxes that the runtime made, and nobody
but the runtime writes inboxes and messages. -/
theorem Session.fifo (config : Config) (supply correlations : Supply) (clock : Clock)
    {last : World}
    (session : Session (World.new config (Store.empty supply) correlations clock) last)
    (fresh : last.store.supply.Fresh) (orderly : Journal.Orderly last.journal) :
    InOrder (World.new config (Store.empty supply) correlations clock) last := by
  have askers := AskersRun.first config (Store.empty supply) correlations clock
  have moves := (session.moves askers).1
  obtain ⟨filed, placed⟩ := moves.filed_placed (Filed.first config supply correlations clock)
    (Placed.first config _ correlations clock) fresh orderly
  exact placed.inOrder filed moves rfl

namespace Sample

/-- A runtime with nothing in it, whose identifiers are the numbers in turn. -/
abbrev empty : World := World.new {} (Store.empty ⟨.ofNat, 0⟩) ⟨.ofNat, 0⟩ ⟨0, 1000⟩

/-- An actor that accepts one event and does nothing. -/
def idler : ActorSpec where
  interface := ["GO"]
  behavior := .obj [("kind", .str "process")]
  schemas := Table.ofList [("GO", .bool true)]

/-- A message for it. -/
def go : Message := { type := "GO", payload := .empty }

/-- The entries that were handled, latest first: place and message. -/
def handled (journal : List Note) : List (Nat × Id) :=
  journal.filterMap fun
    | .taken _ _ position message _ => some (position, message)
    | _ => none

end Sample

/-- An actor that is stopped and started again handles only the message that is new. -/
theorem Session.handled_once :
    ∃ last, Session Sample.empty last ∧ last.store.supply.Fresh ∧
      Journal.Orderly last.journal ∧
      Sample.handled last.journal = [(2, .ofNat 5), (1, .ofNat 4), (0, .ofNat 3)] ∧
      InOrder Sample.empty last := by
  have session : Session Sample.empty Sample.empty := .first
  obtain ⟨last, session, tested⟩ := session.exists_of_allReturn 3
    [.createActor Sample.idler, .queue (.ofNat 2) Sample.go, .queue (.ofNat 2) Sample.go,
      .spawn (.ofNat 2), .stop (.ofNat 2), .queue (.ofNat 2) Sample.go, .spawn (.ofNat 2)]
    (fun world => world.store.supply.made == 6 && decide (Journal.Orderly world.journal) &&
      Sample.handled world.journal == [(2, .ofNat 5), (1, .ofNat 4), (0, .ofNat 3)])
    (by decide +kernel)
  simp only [Bool.and_eq_true, beq_iff_eq, decide_eq_true_eq] at tested
  obtain ⟨⟨made, orderly⟩, handled⟩ := tested
  have moves := (session.moves (AskersRun.first _ _ _ _)).1
  have fresh : last.store.supply.Fresh := by
    have distinct : ∀ i < 6, ∀ j < 6, Id.ofNat i = Id.ofNat j → i = j := by decide
    intro i j hi hj same
    rw [moves.supplies.supply.mint] at same
    exact distinct i (made ▸ hi) j (made ▸ hj) same
  exact ⟨last, session, fresh, orderly, handled, Session.fifo _ _ _ _ session fresh orderly⟩

end Troupe
