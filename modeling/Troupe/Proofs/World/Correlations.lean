import Troupe.Proofs.World.Answers

/-!
# Every ask has its own correlation

An ask is entered under a correlation that nobody has seen, so that what answers it can be told from
what answers other asks.  Whatever moves, the journal knows one ask at most for each correlation,
and the ask that waits under a correlation is that one (`World.AskedOnce`).

## Main results

* `World.Move.asked_cases`: a move enters one ask, or none;
* `World.AskedOnce.moves`: the ask of a correlation is unique, in any state that a runtime can come
  to.
-/

namespace Troupe

open Relation

namespace World

variable {world before after : World}

/-- No correlation is handed out, and no ask is noted. -/
structure AsksNothing (before after : World) : Prop where
  /-- Correlations are where they were. -/
  correlations : after.correlations = before.correlations
  /-- What was asked was asked before. -/
  journal : ∀ correlation ask, .asked correlation ask ∈ after.journal →
    .asked correlation ask ∈ before.journal

namespace AsksNothing

lemma quiet (new : List Note) (journal : after.journal = new ++ before.journal)
    (others : ∀ correlation ask, .asked correlation ask ∉ new)
    (correlations : after.correlations = before.correlations) : before.AsksNothing after where
  correlations := correlations
  journal correlation ask mem := by
    rw [journal] at mem
    exact (List.mem_append.1 mem).resolve_left (others correlation ask)

lemma of_eq (journal : after.journal = before.journal)
    (correlations : after.correlations = before.correlations) : before.AsksNothing after :=
  .quiet [] journal (by simp) correlations

lemma storeFrame (storeFrame : before.StoreFrame after) : before.AsksNothing after := by
  obtain ⟨new, journal, ofStore⟩ := storeFrame.journal
  exact .quiet new journal (fun _ _ mem => by cases ofStore _ mem) storeFrame.correlations

lemma updateRunning (world : World) (actor : Id) (change : Running → Running) :
    world.AsksNothing (world.updateRunning actor change) :=
  .of_eq (updateRunning_journal _ _ _) (updateRunning_correlations _ _ _)

lemma pick (world : World) (ready : ReadyQueue) (actor : Id) (running : Running)
    (listed : List Id) :
    world.AsksNothing (World.pick { world with ready } actor running listed).2 :=
  .quiet _ (pick_journal _ _ _ _)
    (fun _ _ mem => by cases Ledger.lookNotes_not_ofAsk _ mem) (by rw [pick_frame])

/-- Changing what is known of actors afterwards makes no difference. -/
lemma turnTo {actor : Id} (nothing : before.AsksNothing after) (activity : Activity) :
    before.AsksNothing (after.turnTo actor activity) := by
  rw [World.turnTo, updateRunning_frame]
  exact ⟨nothing.correlations, nothing.journal⟩

end AsksNothing

/-- A step enters one ask, or none. -/
lemma Step.asked_cases (step : Step before after) : before.AsksNothing after ∨
    ∃ asker target event, after = (before.registerAsk asker target event).2 := by
  cases step with
  | @ask asker target event runs => exact .inr ⟨asker, target, event, rfl⟩
  | write op => exact .inl (.storeFrame (before.write_storeFrame op))
  | post target message => exact .inl (.storeFrame (before.post_storeFrame target message))
  | mark handles => exact .inl (.storeFrame (before.mark_storeFrame _))
  | tools | render | pump | skip => exact .inl (.of_eq rfl rfl)
  | remember actor memory => exact .inl (.updateRunning _ _ _)
  | accept =>
    rcases acceptReply_cases before _ _ _ with same | ⟨correlation, ask, -, -, -, -, done⟩
    · rw [same]
      exact .inl (.of_eq rfl rfl)
    · rw [done]
      exact .inl (.quiet [_] rfl (by simp) rfl)
  | pass next found idle none => exact .inl (.pick _ _ _ _ _)
  | take next found idle some => exact .inl ((AsksNothing.pick _ _ _ _ _).turnTo _)
  | @finish actor running listed found busy =>
    have idle : before.AsksNothing (before.turnTo actor .idle) := .updateRunning _ _ _
    split
    · exact .inl ⟨idle.correlations, idle.journal⟩
    · exact .inl idle
  | @started actor running found busy =>
    have idle : before.AsksNothing (before.turnTo actor .idle) := .updateRunning _ _ _
    exact .inl ⟨idle.correlations, idle.journal⟩
  | @enlist actor config behavior stopped record loaded =>
    have enlisted : before.AsksNothing (before.enlist actor config behavior) :=
      .quiet [.spawned actor config.inbox] rfl (by simp) rfl
    exact .inl (enlisted.turnTo _)

/-- An order enters none. -/
lemma Order.asksNothing (order : Order before after) : before.AsksNothing after := by
  cases order with
  | makeInbox => exact .storeFrame before.makeInbox_storeFrame
  | make value => exact .storeFrame (before.make_storeFrame value)
  | own made owner => exact .storeFrame (before.own_storeFrame _ owner)
  | schedule actor => exact .storeFrame (before.schedule_storeFrame actor)
  | @dismiss actor running =>
    refine ⟨rfl, fun _ _ mem => ?_⟩
    rcases List.mem_append.1 mem with mem | mem
    · obtain ⟨_, -, eq⟩ := List.mem_map.1 mem
      cases eq
    · exact (List.mem_cons.1 mem).resolve_left (by simp)
  | timeOut now =>
    refine .quiet _ rfl (fun _ _ mem => ?_) rfl
    obtain ⟨_, -, eq⟩ := List.mem_map.1 mem
    cases eq
  | unwatch token =>
    obtain ⟨watches, same⟩ := before.unwatch_frame token
    rw [same]
    exact .of_eq rfl rfl
  | track | protect | watch | registerSchema | setTools | onRerender | setTime =>
    exact .of_eq rfl rfl
  | restart config restored =>
    obtain ⟨store, -, rfl⟩ := restore?_some restored
    exact .quiet [.restored] rfl (by simp) rfl

/-- A move enters one ask, or none. -/
theorem Move.asked_cases (move : Move before after) : before.AsksNothing after ∨
    ∃ asker target event, after = (before.registerAsk asker target event).2 := by
  rcases move with (step | ⟨-, -⟩ | -) | order
  · exact step.asked_cases
  · exact .inl (.updateRunning _ _ _)
  · exact .inl (.of_eq rfl rfl)
  · exact .inl order.asksNothing

/-- For each correlation there is one ask at most. -/
structure AskedOnce (world : World) : Prop where
  /-- The correlation of an ask was handed out, -/
  minted : ∀ correlation ask, .asked correlation ask ∈ world.journal →
    world.correlations.Minted correlation
  /-- no two asks have the same, -/
  once : ∀ correlation ask other, .asked correlation ask ∈ world.journal →
    .asked correlation other ∈ world.journal → other = ask
  /-- and an ask that waits was asked. -/
  pending : ∀ correlation ask, world.pending.find? correlation = some ask →
    .asked correlation ask ∈ world.journal
  /-- One that is tracked has timed out. -/
  expired : ∀ correlation tracked, world.expired.find? correlation = some tracked →
    ∃ ask now, .timedOut correlation ask now ∈ world.journal

namespace AskedOnce

lemma first (config : Config) (store : Store) (correlations : Supply) (clock : Clock) :
    (World.new config store correlations clock).AskedOnce :=
  ⟨by simp [World.new], by simp [World.new], by simp [World.new], by simp [World.new]⟩

/-- A new ask has a correlation that no other one has. -/
lemma registerAsk (once : before.AskedOnce) (fresh : before.correlations.advance.Fresh)
    (asker target : Id) (event : String) : (before.registerAsk asker target event).2.AskedOnce := by
  have new : ∀ ask, .asked before.correlations.next ask ∉ before.journal :=
    fun ask mem => (once.minted _ ask mem).ne_next fresh rfl
  refine ⟨fun correlation ask mem => ?_, fun correlation ask other mem also => ?_,
    fun correlation ask found => ?_, fun correlation tracked found => ?_⟩
  · rcases List.mem_cons.1 mem with same | old
    · cases same
      exact before.correlations.minted_next
    · exact (once.minted _ _ old).of_leads (Supply.leads_advance _)
  · rcases List.mem_cons.1 mem with same | old <;> rcases List.mem_cons.1 also with same' | old'
    · cases same
      cases same'
      rfl
    · cases same
      exact absurd old' (new other)
    · cases same'
      exact absurd old (new ask)
    · exact once.once _ _ _ old old'
  · rw [World.registerAsk, Table.find?_insert] at found
    split_ifs at found with same
    · cases found
      rw [← same]
      exact List.mem_cons_self
    · exact List.mem_cons_of_mem _ (once.pending _ _ found)
  · obtain ⟨ask, now, mem⟩ := once.expired _ _ found
    exact ⟨ask, now, List.mem_cons_of_mem _ mem⟩

lemma move (move : Move before after) (fresh : after.correlations.Fresh)
    (once : before.AskedOnce) : after.AskedOnce := by
  rcases move.asked_cases with nothing | ⟨asker, target, event, rfl⟩
  · have changed := AsksMove.move move
    have old : ∀ {correlation}, ¬ before.correlations.Mints after.correlations correlation := by
      rintro correlation ⟨n, ge, lt, -⟩
      rw [nothing.correlations] at lt
      omega
    refine ⟨fun correlation ask mem => ?_, fun correlation ask other mem also => ?_,
      fun correlation ask found => ?_, fun correlation tracked found => ?_⟩
    · rw [nothing.correlations]
      exact once.minted _ _ (nothing.journal _ _ mem)
    · exact once.once _ _ _ (nothing.journal _ _ mem) (nothing.journal _ _ also)
    · rcases changed.pending _ _ found with waits | new
      · exact move.suffix.subset (once.pending _ _ waits)
      · exact absurd new old
    · obtain ⟨ask, now, mem⟩ := (changed.expired _ _ found).elim (once.expired _ _) id
      exact ⟨ask, now, move.suffix.subset mem⟩
  · exact once.registerAsk fresh _ _ _

/-- For each correlation there is one ask at most, in any state that a runtime can come to. -/
theorem moves (moves : Moves before after) (fresh : after.correlations.Fresh)
    (once : before.AskedOnce) : after.AskedOnce := by
  induction moves with
  | refl => exact once
  | tail _ last ih => exact (ih (fresh.of_leads (AsksMove.move last).leads)).move last fresh

end AskedOnce

end World

end Troupe
