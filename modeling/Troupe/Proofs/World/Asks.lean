import Mathlib.Data.List.Nodup
import Mathlib.Data.List.Count
import Troupe.Proofs.World.Moves

/-!
# An ask has at most one outcome

An ask waits under its correlation until it is settled: it is answered, it times out, or its
asker is stopped.  The journal notes each of these.  `World.Ledger` ties the tables of asks to
the journal: an ask is pending exactly when it was asked and has not been settled, and nothing
is settled twice.

## Main results

* `World.Ledger.moves`: the tables agree with the journal in every session;
* `World.settled_of_moves`: what settles an ask is one of three things;
* `World.expireAsks_eq`: what the timing out of asks does;
* `Session.asks_settle`: all of it.
-/

namespace Troupe

open Relation

/-- Whether a note says that the ask with a correlation was settled. -/
def Note.settles (note : Note) (correlation : Id) : Bool :=
  match note with
  | .answered settled _ _ | .timedOut settled _ _ | .abandoned settled _ => settled == correlation
  | _ => false

/-- Whether a note is about an ask. -/
def Note.ofAsk : Note → Bool
  | .asked .. | .answered .. | .timedOut .. | .abandoned .. => true
  | _ => false

/-- Whether a note is of a message that was sent. -/
def Note.isSent : Note → Bool
  | .sent .. => true
  | _ => false

lemma Note.ofAsk_of_settles {note : Note} {correlation : Id} (settles : note.settles correlation) :
    note.ofAsk := by
  cases note <;> first | rfl | cases settles

lemma Note.not_settles {note : Note} (other : note.ofAsk = false) (correlation : Id) :
    ¬ note.settles correlation := by
  intro settles
  rw [Note.ofAsk_of_settles settles] at other
  cases other

section Settling

variable {note : Id × PendingAsk → Note} {gone : List (Id × PendingAsk)} {others : List Note}
  {correlation : Id}

/-- Among notes that settle asks and notes of other things, those asks are settled. -/
lemma Note.exists_settles_iff
    (settles : ∀ entry correlation, (note entry).settles correlation ↔ entry.1 = correlation)
    (quiet : ∀ note ∈ others, note.ofAsk = false) (correlation : Id) :
    (∃ new ∈ gone.map note ++ others, new.settles correlation) ↔
      correlation ∈ gone.map Prod.fst := by
  simp only [List.mem_append, List.mem_map]
  constructor
  · rintro ⟨new, ⟨entry, mem, rfl⟩ | mem, done⟩
    · exact ⟨entry, mem, (settles entry correlation).1 done⟩
    · exact absurd done (Note.not_settles (quiet new mem) correlation)
  · rintro ⟨entry, mem, same⟩
    exact ⟨note entry, .inl ⟨entry, mem, rfl⟩, (settles entry correlation).2 same⟩

/-- Nothing is asked among notes that settle asks and notes of other things. -/
lemma Note.not_asked_of_settles {ask : PendingAsk}
    (settles : ∀ entry correlation, (note entry).settles correlation ↔ entry.1 = correlation)
    (quiet : ∀ note ∈ others, note.ofAsk = false) :
    Note.asked correlation ask ∉ gone.map note ++ others := by
  intro mem
  rcases List.mem_append.1 mem with mem | mem
  · obtain ⟨entry, -, eq⟩ := List.mem_map.1 mem
    have own := (settles entry entry.1).2 rfl
    simp [eq, Note.settles] at own
  · simpa [Note.ofAsk] using quiet _ mem

/-- Notes that settle asks settle each as often as it is listed. -/
lemma Note.countP_settles_map
    (settles : ∀ entry correlation, (note entry).settles correlation ↔ entry.1 = correlation)
    (gone : List (Id × PendingAsk)) (correlation : Id) :
    (gone.map note).countP (·.settles correlation) = (gone.map Prod.fst).count correlation := by
  rw [List.count, List.countP_map, List.countP_map]
  refine List.countP_congr fun entry _ => ?_
  simp [settles]

end Settling

lemma Note.not_ofAsk_of_ofStore {note : Note} (ofStore : note.ofStore) : note.ofAsk = false := by
  cases note <;> first | rfl | cases ofStore

namespace World

variable {first world before after : World} {actor : Id}

/-- The tables of asks agree with the journal. -/
structure Ledger (world : World) : Prop where
  /-- Every correlation was handed out by the supply. -/
  minted : ∀ correlation ask, Note.asked correlation ask ∈ world.journal →
    ∃ n, n < world.correlations.made ∧ correlation = world.correlations.mint n
  /-- An ask waits if it was asked and has not been settled. -/
  pending : ∀ correlation ask, world.pending.find? correlation = some ask ↔
    Note.asked correlation ask ∈ world.journal ∧
      ∀ note ∈ world.journal, ¬ note.settles correlation
  /-- Nothing is settled twice. -/
  once : ∀ correlation, world.journal.countP (·.settles correlation) ≤ 1
  /-- What is settled was asked. -/
  asked : ∀ correlation, ∀ note ∈ world.journal, note.settles correlation →
    ∃ ask, Note.asked correlation ask ∈ world.journal
  /-- What is tracked has timed out. -/
  expired : ∀ correlation ask, world.expired.find? correlation = some ask →
    ∃ note ∈ world.journal, note.settles correlation

namespace Ledger

/-- Some of the asks that wait are settled, and none is asked. -/
lemma settle (ledger : before.Ledger) (gone : List (Id × PendingAsk))
    (note : Id × PendingAsk → Note) (others : List Note)
    (nodup : (gone.map Prod.fst).Nodup)
    (waited : ∀ entry ∈ gone, before.pending.find? entry.1 = some entry.2)
    (settles : ∀ entry correlation, (note entry).settles correlation ↔ entry.1 = correlation)
    (journal : after.journal = gone.map note ++ others ++ before.journal)
    (quiet : ∀ note ∈ others, note.ofAsk = false)
    (correlations : after.correlations = before.correlations)
    (pending : ∀ correlation ask, after.pending.find? correlation = some ask ↔
      before.pending.find? correlation = some ask ∧ correlation ∉ gone.map Prod.fst)
    (expired : ∀ correlation ask, after.expired.find? correlation = some ask →
      ∃ note ∈ before.journal, note.settles correlation) : after.Ledger := by
  have settled : ∀ correlation, (∃ new ∈ gone.map note ++ others, new.settles correlation) ↔
      correlation ∈ gone.map Prod.fst := Note.exists_settles_iff settles quiet
  have asked : ∀ correlation ask, Note.asked correlation ask ∈ after.journal ↔
      Note.asked correlation ask ∈ before.journal := by
    intro correlation ask
    rw [journal, List.mem_append, or_iff_right (Note.not_asked_of_settles settles quiet)]
  constructor
  case minted =>
    intro correlation ask mem
    rw [correlations]
    exact ledger.minted correlation ask ((asked _ _).1 mem)
  case pending =>
    intro correlation ask
    rw [pending, ledger.pending, asked, ← settled, and_assoc, journal]
    refine and_congr_right fun _ => ⟨?_, fun none => ⟨?_, ?_⟩⟩
    · rintro ⟨old, new⟩ note mem done
      rcases List.mem_append.1 mem with mem | mem
      · exact new ⟨note, mem, done⟩
      · exact old note mem done
    · exact fun note mem => none note (List.mem_append_right _ mem)
    · rintro ⟨note, mem, done⟩
      exact none note (List.mem_append_left _ mem) done
  case once =>
    intro correlation
    rw [journal, List.countP_append]
    by_cases mem : correlation ∈ gone.map Prod.fst
    · -- it waited, so it had not been settled before, and it is settled once now
      have old : before.journal.countP (·.settles correlation) = 0 := by
        obtain ⟨entry, there, rfl⟩ := List.mem_map.1 mem
        have waits := (ledger.pending _ _).1 (waited entry there)
        exact List.countP_eq_zero.2 waits.2
      have rest : others.countP (·.settles correlation) = 0 :=
        List.countP_eq_zero.2 fun note mem => Note.not_settles (quiet note mem) correlation
      rw [List.countP_append, old, rest, Note.countP_settles_map settles]
      simpa using List.nodup_iff_count_le_one.1 nodup correlation
    · have new : (gone.map note ++ others).countP (·.settles correlation) = 0 :=
        List.countP_eq_zero.2 fun note there done => mem ((settled _).1 ⟨note, there, done⟩)
      rw [new, Nat.zero_add]
      exact ledger.once correlation
  case asked =>
    intro correlation new mem done
    rw [journal] at mem
    rcases List.mem_append.1 mem with mem | mem
    · obtain ⟨entry, there, rfl⟩ := List.mem_map.1 ((settled correlation).1 ⟨new, mem, done⟩)
      exact ⟨entry.2, (asked _ _).2 ((ledger.pending _ _).1 (waited entry there)).1⟩
    · obtain ⟨ask, there⟩ := ledger.asked correlation new mem done
      exact ⟨ask, (asked _ _).2 there⟩
  case expired =>
    intro correlation ask found
    obtain ⟨new, mem, done⟩ := expired correlation ask found
    exact ⟨new, journal ▸ List.mem_append_right _ mem, done⟩

/-- Nothing is asked and nothing is settled. -/
lemma quiet (ledger : before.Ledger) (new : List Note)
    (journal : after.journal = new ++ before.journal) (others : ∀ note ∈ new, note.ofAsk = false)
    (correlations : after.correlations = before.correlations)
    (pending : after.pending = before.pending)
    (expired : ∀ correlation ask, after.expired.find? correlation = some ask →
      ∃ note ∈ before.journal, note.settles correlation) :
    after.Ledger :=
  ledger.settle [] (fun entry => .abandoned entry.1 entry.1) new List.nodup_nil (by simp)
    (by simp [Note.settles]) journal others correlations (by simp [pending]) expired

lemma storeFrame (storeFrame : before.StoreFrame after) (ledger : before.Ledger) :
    after.Ledger := by
  obtain ⟨new, journal, ofStore⟩ := storeFrame.journal
  refine ledger.quiet new journal (fun note mem => Note.not_ofAsk_of_ofStore (ofStore note mem))
    storeFrame.correlations storeFrame.pending fun correlation ask found => ?_
  rw [storeFrame.expired] at found
  exact ledger.expired correlation ask found

/-- A new ask waits under a correlation that nobody has seen. -/
lemma ask (fresh : before.correlations.advance.Fresh) (ledger : before.Ledger)
    (asker target : Id) (event : String) : (before.registerAsk asker target event).2.Ledger := by
  -- a new correlation cannot have been asked or settled before
  have unasked : ∀ ask, Note.asked before.correlations.next ask ∉ before.journal := by
    intro ask mem
    obtain ⟨n, lt, eq⟩ := ledger.minted _ ask mem
    exact fresh.ne_next lt eq.symm
  have unsettled : ∀ note ∈ before.journal, ¬ note.settles before.correlations.next := by
    intro note mem settled
    obtain ⟨ask, there⟩ := ledger.asked _ note mem settled
    exact unasked ask there
  constructor
  case minted =>
    intro correlation ask mem
    rcases List.mem_cons.1 mem with new | old
    · cases new
      exact ⟨_, Nat.lt_succ_self _, rfl⟩
    · obtain ⟨n, lt, eq⟩ := ledger.minted _ ask old
      exact ⟨n, Nat.lt_succ_of_lt lt, eq⟩
  case pending =>
    intro correlation ask
    simp only [registerAsk, Table.find?_insert, List.mem_cons, Note.asked.injEq,
      forall_eq_or_imp, Note.settles, Bool.false_eq_true, not_false_eq_true, true_and]
    split
    · rename_i same
      subst same
      simp only [Option.some.injEq, true_and, unasked, or_false, eq_comm (a := ask)]
      exact (and_iff_left unsettled).symm
    · rename_i other
      simp only [Ne.symm other, false_and, false_or]
      exact ledger.pending correlation ask
  case once =>
    intro correlation
    have same : (before.registerAsk asker target event).2.journal.countP
        (·.settles correlation) = before.journal.countP (·.settles correlation) :=
      List.countP_cons_of_neg (by simp [Note.settles])
    rw [same]
    exact ledger.once correlation
  case asked =>
    intro correlation note mem settled
    rcases List.mem_cons.1 mem with rfl | old
    · cases settled
    · obtain ⟨ask, there⟩ := ledger.asked correlation note old settled
      exact ⟨ask, List.mem_cons_of_mem _ there⟩
  case expired =>
    intro correlation ask found
    obtain ⟨note, mem, settled⟩ := ledger.expired correlation ask found
    exact ⟨note, List.mem_cons_of_mem _ mem, settled⟩

/-- Nothing happens that has to do with asks. -/
lemma of_eq (ledger : before.Ledger) (journal : after.journal = before.journal)
    (correlations : after.correlations = before.correlations)
    (pending : after.pending = before.pending) (expired : after.expired = before.expired) :
    after.Ledger :=
  ledger.quiet [] journal (by simp) correlations pending fun correlation ask found =>
    ledger.expired correlation ask (expired ▸ found)

lemma updateRunning (ledger : before.Ledger) (actor : Id) (change : Running → Running) :
    (before.updateRunning actor change).Ledger :=
  ledger.of_eq (updateRunning_journal _ _ _) (updateRunning_correlations _ _ _)
    (updateRunning_pending _ _ _) (updateRunning_expired _ _ _)

lemma lookNotes_not_ofAsk {actor inbox : Id} {look : Inbox.Look} :
    ∀ note ∈ lookNotes actor inbox look, note.ofAsk = false := by
  intro note mem
  simp only [lookNotes, List.mem_append, Option.mem_toList, Option.map_eq_some_iff,
    List.mem_reverse, List.mem_map] at mem
  rcases mem with ⟨_, -, rfl⟩ | ⟨_, -, rfl⟩ <;> rfl

lemma pick (ledger : before.Ledger) (ready : ReadyQueue) (actor : Id) (running : Running)
    (listed : List Id) : (World.pick { before with ready } actor running listed).2.Ledger := by
  refine ledger.quiet _ (pick_journal _ _ _ _) lookNotes_not_ofAsk ?_ ?_ ?_
  · rw [pick_frame]
  · rw [pick_frame]
  · rw [pick_frame]
    exact ledger.expired

lemma step (step : Step before after) (fresh : after.correlations.Fresh)
    (ledger : before.Ledger) : after.Ledger := by
  cases step with
  | write op => exact ledger.storeFrame (before.write_storeFrame op)
  | post target message => exact ledger.storeFrame (before.post_storeFrame target message)
  | mark handles => exact ledger.storeFrame (before.mark_storeFrame _)
  | tools | render | pump | skip => exact ledger.of_eq rfl rfl rfl rfl
  | remember actor memory => exact ledger.updateRunning _ _
  | ask target event runs => exact ledger.ask fresh _ target event
  | accept =>
    rcases acceptReply_cases before _ _ _ with same | ⟨correlation, ask, -, found, -, -, done⟩
    · rwa [same]
    · rw [done]
      refine ledger.settle [(correlation, ask)] (fun entry => .answered entry.1 _ _)
        [] (by simp) (by simpa) (by simp [Note.settles]) rfl (by simp) rfl ?_ ledger.expired
      intro other ask
      rw [Table.find?_erase]
      by_cases same : correlation = other
      · simp [same]
      · simp [same, Ne.symm same]
  | pass next found idle none => exact ledger.pick _ _ _ _
  | take next found idle some => exact (ledger.pick _ _ _ _).updateRunning _ _
  | finish found busy =>
    split
    · exact (ledger.updateRunning _ _).storeFrame (schedule_storeFrame _ _)
    · exact ledger.updateRunning _ _
  | started found busy => exact (ledger.updateRunning _ _).storeFrame (schedule_storeFrame _ _)
  | enlist stopped record loaded =>
    exact (ledger.quiet [Note.spawned _ _] rfl (by simp [Note.ofAsk]) rfl rfl ledger.expired :
      World.Ledger (World.enlist ..)).updateRunning _ _

lemma dismiss (ledger : before.Ledger) (actor : Id) (running : Running) :
    (before.dismiss actor running).Ledger := by
  refine ledger.settle (before.pending.filter fun _ ask => ask.asker == actor).entries
    (fun entry => .abandoned entry.1 actor) [.stopped actor] (Table.nodup_keys _) ?_
    (by simp [Note.settles]) ?_ (by simp [Note.ofAsk]) rfl ?_ ?_
  · exact fun entry mem => Table.mem_entries.1 (Table.mem_filter_entries.1 mem).1
  · simp [World.dismiss, Table.keys]
  · exact fun correlation ask => Table.find?_filter_not _ _ _ _
  · intro correlation ask found
    rw [World.dismiss, Table.find?_filter, Option.filter_eq_some_iff] at found
    exact ledger.expired correlation ask found.1

lemma timeOut (ledger : before.Ledger) (now : Int) : (before.timeOut now).Ledger := by
  refine ledger.settle (before.overdue now).entries (fun entry => .timedOut entry.1 entry.2 now)
    [] (Table.nodup_keys _) ?_ (by simp [Note.settles]) (by simp [World.timeOut]) (by simp) rfl ?_ ?_
  · exact fun entry mem => Table.mem_entries.1 (Table.mem_filter_entries.1 mem).1
  · exact fun correlation ask => Table.find?_filter_not _ _ _ _
  · intro correlation ask found
    rw [World.timeOut, Table.find?_filter, Option.filter_eq_some_iff] at found
    exact ledger.expired correlation ask found.1

lemma order (order : Order before after) (unrestored : Note.restored ∉ after.journal)
    (ledger : before.Ledger) : after.Ledger := by
  cases order with
  | makeInbox => exact ledger.storeFrame before.makeInbox_storeFrame
  | make value => exact ledger.storeFrame (before.make_storeFrame value)
  | own made owner => exact ledger.storeFrame (before.own_storeFrame _ owner)
  | schedule actor => exact ledger.storeFrame (before.schedule_storeFrame actor)
  | dismiss found idle => exact ledger.dismiss _ _
  | timeOut now => exact ledger.timeOut now
  | @track correlation ask now timedOut runs =>
    refine ledger.quiet [] rfl (by simp) rfl rfl fun other tracked found => ?_
    rw [track, Table.find?_insert] at found
    split at found
    · rename_i same
      exact ⟨_, timedOut, by simp [Note.settles, same]⟩
    · exact ledger.expired other tracked found
  | unwatch token =>
    obtain ⟨watches, same⟩ := before.unwatch_frame token
    rw [same]
    exact ledger.of_eq rfl rfl rfl rfl
  | protect | watch | registerSchema | setTools | onRerender | setTime =>
    exact ledger.of_eq rfl rfl rfl rfl
  | restart config restored =>
    obtain ⟨store, -, rfl⟩ := restore?_some restored
    exact absurd List.mem_cons_self unrestored

/-- Without a restart, the tables agree with the journal as long as they did at first. -/
lemma moves (moves : Moves before after) (fresh : after.correlations.Fresh)
    (unrestored : Note.restored ∉ after.journal) (ledger : before.Ledger) :
    after.Ledger := by
  induction moves with
  | refl => exact ledger
  | tail _ move ih =>
    have ledger := ih (fresh.of_leads (Moves.correlations (.single move)))
      fun mem => unrestored (move.suffix.subset mem)
    rcases move with (step | ⟨-, -⟩ | ⟨-, -⟩) | order
    · exact ledger.step step fresh
    · exact ledger.updateRunning _ _
    · exact ledger.of_eq rfl rfl rfl rfl
    · exact ledger.order order unrestored

end Ledger

/-! ## What settles an ask -/

/-- How an ask is settled that waits in some state, and what is noted of it. -/
inductive Outcome (world : World) (correlation : Id) (ask : PendingAsk) : Note → Prop
  /-- Its asker handles a message that carries its correlation and passed the checks; the
  asker's own messages count only if they are replies. -/
  | answered {running : Running} {message : Id} {entry : Entry}
    (handles : world.Handles running ask.asker message entry)
    (validates : world.Validates ⟨ask.asker, running.config⟩ message entry)
    (carries : entry.correlation = some correlation)
    (reply : entry.source = some ask.asker → entry.type = successEvent ∨ entry.type = errorEvent) :
    Outcome world correlation ask (.answered correlation ask.asker message)
  /-- Asks are timed out, and its deadline has come. -/
  | timedOut {now : Int} (due : ask.deadline ≤ now) :
    Outcome world correlation ask (.timedOut correlation ask now)
  /-- Its asker is stopped. -/
  | abandoned {running : Running} (found : world.running.find? ask.asker = some running) :
    Outcome world correlation ask (.abandoned correlation ask.asker)

/-- No note of a settled ask is among notes about other things. -/
lemma settled_of_quiet {new old : List Note} (others : ∀ note ∈ new, note.ofAsk = false)
    {note : Note} {correlation : Id} (mem : note ∈ new ++ old)
    (settles : note.settles correlation) : note ∈ old := by
  exact (List.mem_append.1 mem).resolve_left fun new =>
    Note.not_settles (others note new) correlation settles

lemma StoreFrame.settled (storeFrame : before.StoreFrame after) {note : Note} {correlation : Id}
    (mem : note ∈ after.journal) (settles : note.settles correlation) : note ∈ before.journal := by
  obtain ⟨new, journal, ofStore⟩ := storeFrame.journal
  rw [journal] at mem
  exact settled_of_quiet (fun note mem => Note.not_ofAsk_of_ofStore (ofStore note mem)) mem settles

/-- A move that notes an ask as settled settles it. -/
lemma Step.settled (step : Step before after) {note : Note} {correlation : Id}
    (mem : note ∈ after.journal) (settles : note.settles correlation) :
    note ∈ before.journal ∨ ∃ ask, before.pending.find? correlation = some ask ∧
      before.Outcome correlation ask note := by
  cases step with
  | write op => exact .inl ((before.write_storeFrame op).settled mem settles)
  | post target message => exact .inl ((before.post_storeFrame target message).settled mem settles)
  | mark handles => exact .inl ((before.mark_storeFrame _).settled mem settles)
  | tools | render | pump | skip => exact .inl mem
  | remember actor memory =>
    rw [World.remember, updateRunning_journal] at mem
    exact .inl mem
  | ask target event runs =>
    rcases List.mem_cons.1 mem with rfl | old
    · cases settles
    · exact .inl old
  | accept handles validates event =>
    rename_i actor message entry
    rcases acceptReply_cases before actor message entry with
      same | ⟨other, ask, carries, found, rfl, own, done⟩
    · exact .inl (same ▸ mem)
    · rw [done] at mem
      rcases List.mem_cons.1 mem with rfl | old
      · obtain rfl : other = correlation := by simpa [Note.settles] using settles
        exact .inr ⟨ask, found, .answered handles validates carries own⟩
      · exact .inl old
  | pass next found idle none =>
    rw [pick_journal] at mem
    exact .inl (settled_of_quiet Ledger.lookNotes_not_ofAsk mem settles)
  | take next found idle some =>
    rw [turnTo, updateRunning_journal, pick_journal] at mem
    exact .inl (settled_of_quiet Ledger.lookNotes_not_ofAsk mem settles)
  | @finish actor running listed found busy =>
    have same : (before.turnTo actor .idle).journal = before.journal := updateRunning_journal _ _ _
    split at mem
    · exact .inl (same ▸ (schedule_storeFrame _ _).settled mem settles)
    · exact .inl (same ▸ mem)
  | @started actor running found busy =>
    have same : (before.turnTo actor .idle).journal = before.journal := updateRunning_journal _ _ _
    exact .inl (same ▸ (schedule_storeFrame _ _).settled mem settles)
  | enlist stopped record loaded =>
    rw [turnTo, updateRunning_journal] at mem
    rcases List.mem_cons.1 mem with rfl | old
    · cases settles
    · exact .inl old

lemma Order.settled (order : Order before after) {note : Note} {correlation : Id}
    (mem : note ∈ after.journal) (settles : note.settles correlation) :
    note ∈ before.journal ∨ ∃ ask, before.pending.find? correlation = some ask ∧
      before.Outcome correlation ask note := by
  cases order with
  | makeInbox => exact .inl (before.makeInbox_storeFrame.settled mem settles)
  | make value => exact .inl ((before.make_storeFrame value).settled mem settles)
  | own made owner => exact .inl ((before.own_storeFrame _ owner).settled mem settles)
  | schedule actor => exact .inl ((before.schedule_storeFrame actor).settled mem settles)
  | @dismiss actor running found idle =>
    rcases List.mem_append.1 mem with new | old
    · obtain ⟨key, listed, rfl⟩ := List.mem_map.1 new
      obtain ⟨entry, there, rfl⟩ := List.mem_map.1 listed
      obtain ⟨waits, mine⟩ := Table.mem_filter_entries.1 there
      obtain rfl : entry.1 = correlation := by simpa [Note.settles] using settles
      obtain rfl : entry.2.asker = actor := by simpa using mine
      exact .inr ⟨entry.2, Table.mem_entries.1 waits, .abandoned found⟩
    · rcases List.mem_cons.1 old with rfl | old
      · cases settles
      · exact .inl old
  | timeOut now =>
    rcases List.mem_append.1 mem with new | old
    · obtain ⟨entry, there, rfl⟩ := List.mem_map.1 new
      obtain ⟨waits, due⟩ := Table.mem_filter_entries.1 there
      obtain rfl : entry.1 = correlation := by simpa [Note.settles] using settles
      exact .inr ⟨entry.2, Table.mem_entries.1 waits, .timedOut (by simpa using due)⟩
    · exact .inl old
  | unwatch token =>
    obtain ⟨watches, same⟩ := before.unwatch_frame token
    rw [same] at mem
    exact .inl mem
  | track | protect | watch | registerSchema | setTools | onRerender | setTime => exact .inl mem
  | restart config restored =>
    obtain ⟨store, -, rfl⟩ := restore?_some restored
    rcases List.mem_cons.1 mem with rfl | old
    · cases settles
    · exact .inl old

/-- Whatever is noted as settled was settled at some time, by one of three things. -/
theorem settled_of_moves (moves : Moves first world) {note : Note} {correlation : Id}
    (mem : note ∈ world.journal) (settles : note.settles correlation) :
    note ∈ first.journal ∨ ∃ before ask, Moves first before ∧ Moves before world ∧
      before.pending.find? correlation = some ask ∧ before.Outcome correlation ask note := by
  induction moves with
  | refl => exact .inl mem
  | @tail before after moves move ih =>
    have new : note ∈ before.journal ∨ ∃ ask, before.pending.find? correlation = some ask ∧
        before.Outcome correlation ask note := by
      rcases move with (step | ⟨-, -⟩ | ⟨-, -⟩) | order
      · exact step.settled mem settles
      · rw [turnTo, updateRunning_journal] at mem
        exact .inl mem
      · exact .inl mem
      · exact order.settled mem settles
    rcases new with old | ⟨ask, waits, how⟩
    · refine (ih old).imp_right ?_
      rintro ⟨before', ask, start, rest, waits, how⟩
      exact ⟨before', ask, start, rest.tail move, waits, how⟩
    · exact .inr ⟨before, ask, moves, .single move, waits, how⟩

/-! ## Timing out -/

section Expire

variable {target correlation : Id} {ask : PendingAsk} (fuel : Nat) (now : Int)

/-- Track one ask that has timed out and post the message that tells its asker. -/
def tellTimeout (world : World) (entry : Id × PendingAsk) : World :=
  ((world.track entry.1 entry.2.asker now).post entry.2.asker (world.timeoutMessage entry.2)).2

/-- Time out the asks whose deadline has come and tell their askers. -/
def tellTimeouts (world : World) : World :=
  (world.overdue now).entries.foldl (tellTimeout now) (world.timeOut now)

/-- An asker that is running is told without being started. -/
lemma expireOne_eq (runs : world.running.contains ask.asker) :
    expireOne fuel now correlation ask world =
      .ok () (world.tellTimeout now (correlation, ask)) := by
  have tracked : (world.track correlation ask.asker now).running.contains ask.asker := runs
  have posted := Engine.post_eq_of_runs (engine fuel) (world.timeoutMessage ask) tracked
  change (do
      let _ ← (engine fuel).post ask.asker (world.timeoutMessage ask) : Run Unit)
    (world.track correlation ask.asker now) = _
  rw [Run.bind_of_ok posted]
  rfl

lemma tellTimeout_running (entry : Id × PendingAsk) :
    (world.tellTimeout now entry).running = world.running :=
  (post_storeFrame _ _ _).running

lemma expireEach_eq (entries : List (Id × PendingAsk))
    (runs : ∀ entry ∈ entries, world.running.contains entry.2.asker) :
    (entries.forM fun entry => expireOne fuel now entry.1 entry.2) world =
      .ok () (entries.foldl (tellTimeout now) world) := by
  induction entries generalizing world with
  | nil => rfl
  | cons entry rest ih =>
    have told : expireOne fuel now entry.1 entry.2 world = .ok () (world.tellTimeout now entry) :=
      expireOne_eq fuel now (runs entry List.mem_cons_self)
    have runsOn : ∀ other ∈ rest,
        (world.tellTimeout now entry).running.contains other.2.asker := by
      intro other mem
      rw [tellTimeout_running]
      exact runs other (List.mem_cons_of_mem _ mem)
    change (expireOne fuel now entry.1 entry.2 >>= fun _ => rest.forM fun entry =>
      expireOne fuel now entry.1 entry.2) world = _
    rw [Run.bind_of_ok told]
    exact ih runsOn

/-- The timing out of asks, spelt out: the askers are told, and what waits is handled unless no
ask has timed out. -/
theorem expireAsks_eq (askers : world.AskersRun) :
    expireAsks fuel now world =
      if (world.overdue now).size = 0 then .ok 0 (world.tellTimeouts now)
      else match pump fuel (world.tellTimeouts now) with
        | .ok _ after => .ok (world.overdue now).size after
        | .error halt after => .error halt after := by
  have runs : ∀ entry ∈ (world.overdue now).entries,
      (world.timeOut now).running.contains entry.2.asker := by
    intro entry mem
    have waits := (Table.mem_filter_entries.1 mem).1
    exact askers.pending entry.1 entry.2 (Table.mem_entries.1 waits)
  have each : ((world.overdue now).entries.forM fun entry =>
      expireOne fuel now entry.1 entry.2) (world.timeOut now) =
        .ok () (world.tellTimeouts now) := expireEach_eq fuel now _ runs
  change ((world.overdue now).entries.forM (fun entry => expireOne fuel now entry.1 entry.2) >>=
    fun _ => do
      if !(world.overdue now).entries.isEmpty then
        let _ ← pump fuel
      return (world.overdue now).size) (world.timeOut now) = _
  rw [Run.bind_of_ok each, Table.size]
  cases (world.overdue now).entries with
  | nil => rfl
  | cons entry rest =>
    simp only [List.isEmpty_cons, Bool.not_false, if_true, List.length_cons, Nat.succ_ne_zero,
      if_false, bind, EStateM.bind]
    cases pump fuel (world.tellTimeouts now) <;> rfl

/-- Telling one asker changes neither who waits nor what is set, and one message is sent. -/
lemma tellTimeout_frame (world : World) (entry : Id × PendingAsk) :
    (world.tellTimeout now entry).pending = world.pending ∧
    (world.tellTimeout now entry).config = world.config ∧
    (world.tellTimeout now entry).expired =
      world.expired.insert entry.1 ⟨entry.2.asker, now⟩ ∧
    (world.tellTimeout now entry).journal.filter Note.isSent =
      .sent entry.2.asker (world.timeoutMessage entry.2) :: world.journal.filter Note.isSent := by
  have storeFrame := (world.track entry.1 entry.2.asker now).post_storeFrame entry.2.asker
    (world.timeoutMessage entry.2)
  refine ⟨storeFrame.pending, storeFrame.config, storeFrame.expired, ?_⟩
  obtain ⟨rest, journal, posted⟩ := (world.track entry.1 entry.2.asker now).post_journal
    entry.2.asker (world.timeoutMessage entry.2)
  have none : rest.filter Note.isSent = [] := by
    refine List.filter_eq_nil_iff.2 fun note mem => ?_
    obtain ⟨id, inbox, rfl⟩ := posted note mem
    simp [Note.isSent]
  rw [tellTimeout, journal, List.filter_append, none]
  rfl

/-- Telling askers leaves who waits, and sends one message to each. -/
lemma foldl_tellTimeout (entries : List (Id × PendingAsk)) (world : World) :
    (entries.foldl (tellTimeout now) world).pending = world.pending ∧
    (entries.foldl (tellTimeout now) world).journal.filter Note.isSent =
      (entries.map fun entry => Note.sent entry.2.asker (world.timeoutMessage entry.2)).reverse ++
        world.journal.filter Note.isSent := by
  induction entries generalizing world with
  | nil => exact ⟨rfl, rfl⟩
  | cons entry rest ih =>
    obtain ⟨pending, config, -, sent⟩ := tellTimeout_frame now world entry
    obtain ⟨restPending, restSent⟩ := ih (world.tellTimeout now entry)
    have message : ∀ ask, (world.tellTimeout now entry).timeoutMessage ask =
        world.timeoutMessage ask := by
      intro ask
      simp only [timeoutMessage, timeoutError, config]
    refine ⟨restPending.trans pending, ?_⟩
    simp only [List.foldl_cons, restSent, sent, message, List.map_cons, List.reverse_cons,
      List.append_assoc, List.singleton_append]

/-- Telling askers tracks their asks, and no others. -/
lemma find?_expired_foldl (entries : List (Id × PendingAsk))
    (nodup : (entries.map Prod.fst).Nodup) (world : World) (correlation : Id) :
    (entries.foldl (tellTimeout now) world).expired.find? correlation =
      match Assoc.find? correlation entries with
      | some ask => some ⟨ask.asker, now⟩
      | none => world.expired.find? correlation := by
  induction entries generalizing world with
  | nil => rfl
  | cons entry rest ih =>
    obtain ⟨key, ask⟩ := entry
    obtain ⟨-, -, expired, -⟩ := tellTimeout_frame now world (key, ask)
    rw [List.map_cons, List.nodup_cons] at nodup
    rw [List.foldl_cons, ih nodup.2, expired, Table.find?_insert, Assoc.find?_cons]
    by_cases same : key = correlation
    · have gone : Assoc.find? correlation rest = none := by
        cases found : Assoc.find? correlation rest with
        | none => rfl
        | some other =>
          have mem := List.mem_map_of_mem (f := Prod.fst) (Assoc.mem_of_find?_eq_some found)
          exact absurd (same ▸ mem) nodup.1
      simp [same, gone]
    · simp [same]

end Expire

/-- An answer to an ask that has timed out is late, and settles nothing. -/
lemma acceptReply_of_tracked {receiver message correlation : Id} {entry : Entry}
    {tracked : ExpiredAsk} (carries : entry.correlation = some correlation)
    (reply : entry.source = some receiver → entry.type = successEvent ∨ entry.type = errorEvent)
    (found : world.expired.find? correlation = some tracked) (asker : tracked.asker = receiver) :
    world.acceptReply receiver message entry = (false, world) := by
  have own : ¬(entry.source == some receiver &&
      !(entry.type == successEvent || entry.type == errorEvent)) = true := by
    simpa [imp_iff_not_or, or_comm] using reply
  simp only [acceptReply, carries, found, if_neg own]
  simp [asker]

/-- A late answer does not reach the behavior: unless it is a mutation, nothing happens. -/
lemma dispatch_drops (engine : Engine) {correlation : Id} {tracked : ExpiredAsk}
    (found : world.expired.find? correlation = some tracked) (running : Running) (message : Id)
    (entry : Entry) (payload : Json) (carries : entry.correlation = some correlation)
    (reply : entry.source = some tracked.asker →
      entry.type = successEvent ∨ entry.type = errorEvent) :
    engine.dispatch tracked.asker running message entry payload world =
      if entry.type = world.config.mutationEvent then
        (do engine.applyMutation tracked.asker entry payload; return false : Run Bool) world
      else .ok false world := by
  rw [Engine.dispatch, Run.get_bind]
  split
  · rfl
  · refine (Run.modifyGet_bind _ _ _).trans ?_
    rw [acceptReply_of_tracked carries reply found rfl]
    rfl

/-! ## Outcomes -/

/-- What holds of asks in every state of a session that began in `first`. -/
structure AsksSettle (first world : World) : Prop where
  /-- No correlation is in both tables. -/
  apart : ∀ correlation,
    world.pending.find? correlation = none ∨ world.expired.find? correlation = none
  /-- An ask waits if it was asked and has not been settled. -/
  pending : ∀ correlation ask, world.pending.find? correlation = some ask ↔
    Note.asked correlation ask ∈ world.journal ∧
      ∀ note ∈ world.journal, ¬ note.settles correlation
  /-- It is settled at most once, -/
  once : ∀ correlation, world.journal.countP (·.settles correlation) ≤ 1
  /-- and only by an answer, by timing out or by the stop of its asker, while it waits. -/
  outcome : ∀ correlation, ∀ note ∈ world.journal, note.settles correlation →
    ∃ before ask, Moves first before ∧ Moves before world ∧
      before.pending.find? correlation = some ask ∧ before.Outcome correlation ask note
  /-- Timing out asks reports how many there are whose deadline has come, unless handling what
  waits breaks off. -/
  expire : ∀ fuel now, expireAsks fuel now world =
    if (world.overdue now).size = 0 then .ok 0 (world.tellTimeouts now)
    else match pump fuel (world.tellTimeouts now) with
      | .ok _ after => .ok (world.overdue now).size after
      | .error halt after => .error halt after
  /-- Exactly those no longer wait; -/
  due : ∀ now correlation ask, world.pending.find? correlation = some ask →
    (world.tellTimeouts now).pending.find? correlation =
      if ask.deadline ≤ now then none else some ask
  /-- they are tracked from then on, -/
  tracked : ∀ now correlation ask, world.pending.find? correlation = some ask →
    ask.deadline ≤ now →
    (world.tellTimeouts now).expired.find? correlation = some ⟨ask.asker, now⟩
  /-- and the asker of each is sent one message. -/
  told : ∀ now, (world.tellTimeouts now).journal.filter Note.isSent =
    ((world.overdue now).entries.map fun entry =>
      Note.sent entry.2.asker (world.timeoutMessage entry.2)).reverse ++
      world.journal.filter Note.isSent
  /-- An ask that is settled is not timed out any more. -/
  settled : ∀ correlation, ∀ note ∈ world.journal, note.settles correlation →
    ∀ now, (world.overdue now).find? correlation = none
  /-- While an ask is tracked, no message with its correlation reaches its asker's behavior,
  but for the asker's own messages that are no replies. -/
  dropped : ∀ correlation tracked, world.expired.find? correlation = some tracked →
    ∀ (engine : Engine) running message (entry : Entry) payload,
      entry.correlation = some correlation →
      (entry.source = some tracked.asker →
        entry.type = successEvent ∨ entry.type = errorEvent) →
      engine.dispatch tracked.asker running message entry payload world =
        if entry.type = world.config.mutationEvent then
          (do engine.applyMutation tracked.asker entry payload; return false : Run Bool) world
        else .ok false world
  /-- Everyone who waits or whose ask is tracked is running. -/
  askers : world.AskersRun

/-- Where the tables agree with the journal and askers run, asks settle as they should. -/
lemma Ledger.asksSettle (ledger : world.Ledger) (askers : world.AskersRun)
    (moves : Moves first world) (new : first.journal = []) : AsksSettle first world where
  apart correlation := by
    cases found : world.expired.find? correlation with
    | none => exact .inr rfl
    | some tracked =>
      refine .inl (Option.eq_none_iff_forall_ne_some.2 fun ask waits => ?_)
      obtain ⟨note, mem, settled⟩ := ledger.expired correlation tracked found
      exact ((ledger.pending correlation ask).1 waits).2 note mem settled
  pending := ledger.pending
  once := ledger.once
  outcome correlation note mem settled := by
    refine (settled_of_moves moves mem settled).resolve_left ?_
    simp [new]
  expire fuel now := expireAsks_eq fuel now askers
  due now correlation ask waits := by
    rw [tellTimeouts, (foldl_tellTimeout now _ _).1, World.timeOut, Table.find?_filter, waits]
    by_cases due : ask.deadline ≤ now <;> simp [due]
  tracked now correlation ask waits due := by
    have overdue : Assoc.find? correlation (world.overdue now).entries = some ask := by
      have found : (world.overdue now).find? correlation = some ask := by
        rw [World.overdue, Table.find?_filter, waits]
        simp [due]
      exact found
    rw [tellTimeouts, find?_expired_foldl now _ (Table.nodup_keys _), overdue]
  told now := by
    rw [tellTimeouts, (foldl_tellTimeout now _ _).2]
    have others : (world.timeOut now).journal.filter Note.isSent =
        world.journal.filter Note.isSent := by
      rw [World.timeOut, List.filter_append, List.filter_eq_nil_iff.2, List.nil_append]
      intro note mem
      obtain ⟨entry, -, rfl⟩ := List.mem_map.1 mem
      simp [Note.isSent]
    rw [others]
    rfl
  settled correlation note mem settled now := by
    refine Option.eq_none_iff_forall_ne_some.2 fun ask found => ?_
    rw [World.overdue, Table.find?_filter, Option.filter_eq_some_iff] at found
    exact ((ledger.pending correlation ask).1 found.1).2 note mem settled
  dropped correlation tracked found engine running message entry payload carries reply :=
    dispatch_drops engine found running message entry payload carries reply
  askers := askers

end World

open World

/-- An ask has at most one outcome, in every state of every session without a restart, if
correlations are fresh. -/
theorem Session.asks_settle (config : Config) (store : Store) (correlations : Supply)
    (clock : Clock) {last : World}
    (session : Session (World.new config store correlations clock) last)
    (fresh : last.correlations.Fresh) (unrestored : Note.restored ∉ last.journal) :
    Moves (World.new config store correlations clock) last ∧
    ∀ world, Moves (World.new config store correlations clock) world → Moves world last →
      AsksSettle (World.new config store correlations clock) world := by
  have askers := AskersRun.first config store correlations clock
  have ledger : (World.new config store correlations clock).Ledger := by
    refine ⟨?_, ?_, ?_, ?_, ?_⟩ <;> simp [World.new]
  refine ⟨(session.moves askers).1, fun world before after => ?_⟩
  have unrestored' : Note.restored ∉ world.journal := fun mem =>
    unrestored (after.suffix.subset mem)
  have fresh' : world.correlations.Fresh := fresh.of_leads after.correlations
  exact (ledger.moves before fresh' unrestored').asksSettle (askers.moves before) before rfl

/-- A saved store in which an actor has a message that makes it ask another actor. -/
def Sample.asking : StoreImage where
  objects := Table.ofList
    [(.ofNat 1, .obj [("entries", .arr [.id (.ofNat 4)])]),
      (.ofNat 2, .empty),
      (actor, (ActorConfig.toJson
        ⟨["GO"], .ofNat 1, .ofNat 2,
          .obj [("handlers", .obj [("GO", .obj [("ask",
            .obj [("target", .id (.ofNat 5)), ("type", .str "PING")])])]),
            ("kind", .str "process")],
          none, ∅, Table.ofList [("GO", .bool true)]⟩)),
      (.ofNat 4, (Entry.pending actor { type := "GO", payload := .null }).toJson),
      (.ofNat 5, (ActorConfig.toJson
        ⟨["PING"], .ofNat 6, .ofNat 7, .obj [("kind", .str "process")], none, ∅, ∅⟩)),
      (.ofNat 6, .obj [("entries", .arr [])]),
      (.ofNat 7, .empty)]
  keys := ∅

/-- An ask that is not answered waits until its deadline; then it waits no longer and is
tracked. -/
theorem Session.ask_times_out :
    ∃ world ask,
      Session (World.new { askTimeout := 500 } (Store.ofImage ⟨.ofNat, 10⟩ Sample.asking)
        ⟨.ofNat, 0⟩ ⟨0, 1000⟩) world ∧
      world.correlations.Fresh ∧ Note.restored ∉ world.journal ∧
      world.pending.find? (.ofNat 0) = some ask ∧ ask.deadline = 500 ∧
      (world.tellTimeouts 500).pending.find? (.ofNat 0) = none ∧
      (world.tellTimeouts 500).expired.find? (.ofNat 0) = some ⟨ask.asker, 500⟩ := by
  obtain ⟨⟨⟩, world, ran, tested⟩ := Run.exists_of_returns
    (Command.run 3 (.spawn Sample.actor))
    (fun _ world =>
      (world.pending.find? (.ofNat 0)).any (fun ask => ask.deadline == 500) &&
      world.correlations.made == 1 && world.journal.all fun note => !(note matches .restored))
    (World.new { askTimeout := 500 } (Store.ofImage ⟨.ofNat, 10⟩ Sample.asking)
      ⟨.ofNat, 0⟩ ⟨0, 1000⟩)
    (by decide +kernel)
  simp only [Bool.and_eq_true, Option.any_eq_true, beq_iff_eq, List.all_eq_true] at tested
  obtain ⟨⟨⟨ask, waits, deadline⟩, made⟩, others⟩ := tested
  have session := Session.first.returned 3 (.spawn Sample.actor) ran
  have fresh : world.correlations.Fresh := by
    intro i j hi hj _
    omega
  have unrestored : Note.restored ∉ world.journal := fun mem => by simpa using others _ mem
  obtain ⟨moves, settle⟩ := Session.asks_settle _ _ _ _ session fresh unrestored
  have now := settle world moves .refl
  refine ⟨world, ask, session, fresh, unrestored, waits, deadline, ?_, ?_⟩
  · rw [now.due 500 _ ask waits, if_pos (Int.le_of_eq deadline)]
  · exact now.tracked 500 _ ask waits (Int.le_of_eq deadline)

end Troupe
