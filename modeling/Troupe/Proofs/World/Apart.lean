import Troupe.Proofs.Pass.Exchanges
import Troupe.Proofs.World.Keeps
import Troupe.Proofs.World.Steps

/-!
# One actor among others

What goes on around an actor leaves it alone (`World.Apart`), or has it do something in turn; but
while the actor is busy, nothing else than the pass that it is busy with changes what its behavior
remembers (`World.Spares`).  So what a pass comes to is what the pass alone says, with the answers
that it gets.

## Main results

* `Engine.runPass_yields`: a pass of an actor changes what it remembers as the pass alone says.
-/

namespace Troupe

/-- Whether a note says that an actor runs no longer: it was stopped, or the runtime began anew
without it. -/
def Note.ends (actor : Id) : Note → Bool
  | .stopped id => id == actor
  | .restored => true
  | _ => false

lemma Note.ends_of_ofStore {note : Note} (ofStore : note.ofStore) (actor : Id) :
    note.ends actor = false := by
  cases note <;> first | rfl | cases ofStore

namespace World

variable {before middle after world : World} {actor other : Id}

/-! ## An actor that is not stopped -/

/-- What happens is noted, and nothing that ends an actor. -/
def Continues (before : World) (actor : Id) (after : World) : Prop :=
  ∃ notes, after.journal = notes ++ before.journal ∧ ∀ note ∈ notes, note.ends actor = false

namespace Continues

lemma of_eq (journal : after.journal = before.journal) : before.Continues actor after :=
  ⟨[], journal, by simp⟩

lemma of_note {note : Note} (journal : after.journal = note :: before.journal)
    (goesOn : note.ends actor = false) : before.Continues actor after :=
  ⟨[note], journal, by simpa⟩

protected lemma trans (first : before.Continues actor middle)
    (second : middle.Continues actor after) : before.Continues actor after := by
  obtain ⟨notes₁, eq₁, all₁⟩ := first
  obtain ⟨notes₂, eq₂, all₂⟩ := second
  refine ⟨notes₂ ++ notes₁, by rw [eq₂, eq₁, List.append_assoc], fun note mem => ?_⟩
  exact (List.mem_append.1 mem).elim (all₂ note) (all₁ note)

lemma suffix (continues : before.Continues actor after) : before.journal <:+ after.journal := by
  obtain ⟨notes, eq, -⟩ := continues
  exact eq ▸ List.suffix_append _ _

/-- What does not end the actor in a while does not end it in the first part of that. -/
lemma of_suffix (continues : before.Continues actor after)
    (first : before.journal <:+ middle.journal) (second : middle.journal <:+ after.journal) :
    before.Continues actor middle := by
  obtain ⟨notes, eq, all⟩ := continues
  obtain ⟨earlier, eq₁⟩ := first
  obtain ⟨later, eq₂⟩ := second
  have split : notes = later ++ earlier := by
    rw [← eq₂, ← eq₁, ← List.append_assoc] at eq
    exact (List.append_cancel_right eq).symm
  exact ⟨earlier, eq₁.symm, fun note mem => all note (split ▸ List.mem_append_right _ mem)⟩

end Continues

lemma StoreFrame.continues (storeFrame : before.StoreFrame after) (actor : Id) :
    before.Continues actor after := by
  obtain ⟨notes, eq, all⟩ := storeFrame.journal
  exact ⟨notes, eq, fun note mem => Note.ends_of_ofStore (all note mem) actor⟩

lemma lookNotes_ends {inbox : Id} {look : Inbox.Look} :
    ∀ note ∈ lookNotes other inbox look, note.ends actor = false := by
  intro note mem
  rcases List.mem_append.1 mem with taken | passed
  · obtain ⟨_, -, rfl⟩ := Option.map_eq_some_iff.1 (Option.mem_toList.1 taken)
    rfl
  · obtain ⟨_, -, rfl⟩ := List.mem_map.1 (List.mem_reverse.1 passed)
    rfl

/-! ## An actor that is left alone -/

/-- An actor is left alone: it is not stopped, and what is known of it stays. -/
structure Apart (before : World) (actor : Id) (after : World) : Prop where
  /-- What happens to the store are writes and protection. -/
  store : before.store.Since after.store
  /-- The actor is not stopped. -/
  continues : before.Continues actor after
  /-- What is known of it stays. -/
  running : after.running.find? actor = before.running.find? actor

namespace Apart

/-- The store and the running actors stay. -/
lemma of_eq (store : after.store = before.store) (running : after.running = before.running)
    (continues : before.Continues actor after) : before.Apart actor after :=
  ⟨store ▸ .refl _, continues, by rw [running]⟩

protected lemma refl (world : World) (actor : Id) : world.Apart actor world :=
  .of_eq rfl rfl (.of_eq rfl)

protected lemma trans (first : before.Apart actor middle) (second : middle.Apart actor after) :
    before.Apart actor after :=
  ⟨first.store.trans second.store, first.continues.trans second.continues,
    second.running.trans first.running⟩

end Apart

lemma StoreFrame.apart (storeFrame : before.StoreFrame after) (actor : Id) :
    before.Apart actor after :=
  ⟨storeFrame.store.toGrows.since, storeFrame.continues actor, by rw [storeFrame.running]⟩

/-- Changing what is known of another actor. -/
lemma updateRunning_apart (ne : other ≠ actor) (change : Running → Running) :
    world.Apart actor (world.updateRunning other change) :=
  ⟨by rw [updateRunning_store]; exact .refl _, .of_eq (updateRunning_journal _ _ _),
    (find?_updateRunning _ _ _ _).trans (if_neg ne)⟩

lemma turnTo_apart (ne : other ≠ actor) (world : World) (activity : Activity) :
    world.Apart actor (world.turnTo other activity) :=
  updateRunning_apart ne _

lemma remember_apart (ne : other ≠ actor) (world : World) (memory : Memory) :
    world.Apart actor (world.remember other memory) :=
  updateRunning_apart ne _

/-- Another actor looks for its next entry. -/
lemma pick_apart (ne : other ≠ actor) (world : World) (running : Running) (listed : List Id) :
    world.Apart actor (world.pick other running listed).2 :=
  ⟨by rw [pick_store]; exact .refl _, ⟨_, pick_journal _ _ _ _, lookNotes_ends⟩,
    (find?_pick _ _ _ _ _).trans (if_neg ne)⟩

/-- Another actor is entered among those that run. -/
lemma enlist_apart (ne : other ≠ actor) (world : World) (config : ActorConfig) (behavior : Behavior) :
    world.Apart actor (world.enlist other config behavior) :=
  ⟨.of_eq rfl rfl rfl fun _ => id, .of_note rfl rfl, (Table.find?_insert _ _ _ _).trans (if_neg ne)⟩

/-- An answer is accepted. -/
lemma acceptReply_apart (world : World) (receiver message : Id) (entry : Entry) (actor : Id) :
    world.Apart actor (world.acceptReply receiver message entry).2 := by
  rcases acceptReply_cases world receiver message entry with same | ⟨_, _, -, -, -, -, done⟩
  · rw [same]
    exact .refl world actor
  · rw [done]
    exact .of_eq rfl rfl (.of_note rfl rfl)

/-- Another actor is stopped. -/
lemma dismiss_apart (ne : other ≠ actor) (running : Running) :
    world.Apart actor (world.dismiss other running) := by
  refine ⟨.of_eq rfl rfl rfl fun _ => id, ?_, (Table.find?_erase _ _ _).trans (if_neg ne)⟩
  refine ⟨_ ++ [.stopped other], by rw [List.append_assoc]; rfl, fun note mem => ?_⟩
  rcases List.mem_append.1 mem with abandoned | stopped
  · obtain ⟨_, -, rfl⟩ := List.mem_map.1 abandoned
    rfl
  · rw [List.mem_singleton.1 stopped]
    exact beq_false_of_ne ne

lemma tools_apart (world : World) (tools : ToolRegistry) (actor : Id) :
    world.Apart actor { world with tools } :=
  .of_eq rfl rfl (.of_eq rfl)

lemma registerAsk_apart (world : World) (asker target : Id) (event : String) (actor : Id) :
    world.Apart actor (world.registerAsk asker target event).2 :=
  .of_eq rfl rfl (.of_note rfl rfl)

lemma timeOut_apart (world : World) (now : Int) (actor : Id) :
    world.Apart actor (world.timeOut now) := by
  refine .of_eq rfl rfl ⟨_, rfl, fun note mem => ?_⟩
  obtain ⟨_, -, rfl⟩ := List.mem_map.1 mem
  rfl

/-! ## A busy actor -/

/-- What happens while an actor is busy leaves what is known of it, but for what its behavior
remembers. -/
structure During (before : World) (actor : Id) (old : Running) (after : World) (new : Running) :
    Prop where
  /-- It goes on running, -/
  found : after.running.find? actor = some new
  /-- with the same record and so on. -/
  kept : old.Kept new
  /-- The store changes by writes and protection. -/
  store : before.store.Since after.store
  /-- The actor is not stopped. -/
  continues : before.Continues actor after

lemma During.trans {old mid new : Running} (first : before.During actor old middle mid)
    (second : middle.During actor mid after new) : before.During actor old after new :=
  ⟨second.found, first.kept.trans second.kept, first.store.trans second.store,
    first.continues.trans second.continues⟩

lemma Apart.during {running : Running} (apart : before.Apart actor after)
    (found : before.running.find? actor = some running) :
    before.During actor running after running :=
  ⟨apart.running.trans found, .refl running, apart.store, apart.continues⟩

lemma turnTo_found {running : Running} (activity : Activity)
    (found : world.running.find? actor = some running) :
    (world.turnTo actor activity).running.find? actor = some { running with activity } := by
  rw [turnTo, find?_updateRunning, if_pos rfl, found]
  rfl

lemma remember_found {running : Running} (memory : Memory)
    (found : world.running.find? actor = some running) :
    (world.remember actor memory).running.find? actor = some { running with memory } := by
  rw [remember, find?_updateRunning, if_pos rfl, found]
  rfl

/-- A busy actor remembers something. -/
lemma remember_during {running : Running} (memory : Memory)
    (found : world.running.find? actor = some running) :
    world.During actor running (world.remember actor memory) { running with memory } :=
  ⟨remember_found memory found, ⟨rfl, rfl, rfl, rfl, fun _ => rfl⟩,
    by rw [remember, updateRunning_store]; exact .refl _, .of_eq (updateRunning_journal _ _ _)⟩

/-- What may happen at any time: an actor goes on running, remembers the same while it is busy,
and a property of it is kept. -/
structure Spares (actor : Id) (P : World → Prop) (before after : World) : Prop where
  /-- The store changes by writes and protection. -/
  store : before.store.Since after.store
  /-- The actor is not stopped. -/
  continues : before.Continues actor after
  /-- If it runs it goes on running, and while it is busy it remembers the same. -/
  kept : ∀ old, before.running.find? actor = some old →
    ∃ new, after.running.find? actor = some new ∧ old.Kept new ∧
      (old.activity ≠ .idle → new.memory = old.memory)
  /-- The property is kept. -/
  keeps : P before → P after

variable {P : World → Prop}

/-- A property of an actor that holds on while the actor is left alone. -/
def Stable (actor : Id) (P : World → Prop) : Prop :=
  ∀ ⦃before after : World⦄, before.Apart actor after → P before → P after

lemma Apart.spares (stable : Stable actor P) (apart : before.Apart actor after) :
    Spares actor P before after :=
  ⟨apart.store, apart.continues,
    fun old found => ⟨old, apart.running.trans found, .refl old, fun _ => rfl⟩, stable apart⟩

namespace Spares

protected lemma trans (first : Spares actor P before middle) (second : Spares actor P middle after) :
    Spares actor P before after where
  store := first.store.trans second.store
  continues := first.continues.trans second.continues
  kept old found := by
    obtain ⟨mid, there, kept, same⟩ := first.kept old found
    obtain ⟨new, there', kept', same'⟩ := second.kept mid there
    exact ⟨new, there', kept.trans kept', fun busy =>
      (same' (kept.activity ▸ busy)).trans (same busy)⟩
  keeps holds := second.keeps (first.keeps holds)

/-- A busy actor remembers the same. -/
lemma during {old : Running} (spares : Spares actor P before after)
    (found : before.running.find? actor = some old) (busy : old.activity ≠ .idle) :
    ∃ new, before.During actor old after new ∧ new.memory = old.memory := by
  obtain ⟨new, there, kept, same⟩ := spares.kept old found
  exact ⟨new, ⟨there, kept, spares.store, spares.continues⟩, same busy⟩

/-- It is handed on from part to part of what passes and tools do. -/
lemma frame (stable : Stable actor P) : Frame (Spares actor P) fun _ _ => True where
  refl world := (Apart.refl world actor).spares stable
  trans := .trans
  halts _ _ := trivial
  halt _ := trivial
  write world op := ((world.write_storeFrame op).apart actor).spares stable
  tools world tools := (world.tools_apart tools actor).spares stable
  ask world asker target event := (world.registerAsk_apart asker target event actor).spares stable

/-- So it is around the turns of actors. -/
lemma regime (stable : Stable actor P) : Regime (Spares actor P) fun _ _ => True where
  toFrame := frame stable
  aside _ store running journal := Apart.spares stable (.of_eq store running (.of_eq journal))
  unpump _ := trivial

end Spares

end World

/-- If it returns, a computation keeps a property of an actor, and does what may happen at any
time. -/
abbrev Run.Minds {α : Type} (actor : Id) (P : World → Prop) (run : Run α) (world : World) : Prop :=
  Run.Keeps (World.Spares actor P) (fun _ _ => True) run world

/-- So does what an engine does for passes and tools. -/
abbrev Engine.Minds (engine : Engine) (actor : Id) (P : World → Prop) : Prop :=
  engine.Keeps (World.Spares actor P) fun _ _ => True

/-- It is enough to look at computations that return. -/
lemma Run.minds_of_ok {α : Type} {actor : Id} {P : World → Prop} {run : Run α} {world : World}
    (returns : ∀ result after, run world = .ok result after → World.Spares actor P world after) :
    Run.Minds actor P run world := by
  rw [Run.Minds, Run.Keeps]
  cases ran : run world with
  | ok result after => exact returns result after ran
  | error halt after => trivial

namespace Engine

open World

variable {α : Type} {engine : Engine} {actor id message : Id} {P : World → Prop}
variable {world middle after : World} {running : Running} {entry : Entry}

/-! ## Passes -/

/-- A pass of an actor goes on after what a request of it leads to. -/
lemma Spares.goesOn {next : Pass α} {result : α} (spares : Spares actor P world middle)
    (found : world.running.find? actor = some running) (busy : running.activity ≠ .idle)
    (rest : ∀ mid, middle.running.find? actor = some mid → mid.activity ≠ .idle →
      ∃ log new, middle.During actor mid after new ∧ next.Yields mid.memory log result new.memory) :
    ∃ log new, world.During actor running after new ∧
      next.Yields running.memory log result new.memory := by
  obtain ⟨mid, during, same⟩ := spares.during found busy
  obtain ⟨log, new, during', yields⟩ := rest mid during.found (during.kept.activity ▸ busy)
  exact ⟨log, new, during.trans during', same ▸ yields⟩

/-- A pass of an actor that is busy with it changes what it remembers as the pass alone says,
with the answers that it gets. -/
theorem runPass_yields (stable : Stable actor P)
    (minds : engine.Minds actor P) {pass : Pass α}
    (found : world.running.find? actor = some running) (busy : running.activity ≠ .idle)
    {result : α} (ran : engine.runPass actor pass world = .ok result after) :
    ∃ log new, world.During actor running after new ∧
      pass.Yields running.memory log result new.memory := by
  -- by induction on the pass: what a request leads to elsewhere spares the actor while it is busy,
  -- so what it remembers changes only where the pass itself says so
  have frame := Spares.frame stable
  induction pass generalizing world running with
  | done value =>
    cases ran
    exact ⟨[], running, (Apart.refl _ _).during found, .done _ _⟩
  | read object next ih =>
    obtain ⟨log, new, during, yields⟩ := ih _ found busy ran
    exact ⟨_, new, during, .read _ yields⟩
  | interfaceOf target next ih =>
    obtain ⟨log, new, during, yields⟩ := ih _ found busy ran
    exact ⟨_, new, during, .interfaceOf _ yields⟩
  | execute op next ih =>
    obtain ⟨log, new, during, yields⟩ := Spares.goesOn (frame.write world op) found busy
      fun mid found busy => ih _ found busy ran
    exact ⟨_, new, during, .execute _ yields⟩
  | registerAsk asker target event next ih =>
    obtain ⟨log, new, during, yields⟩ := Spares.goesOn (frame.ask world asker target event) found
      busy fun mid found busy => ih _ found busy ran
    exact ⟨_, new, during, .registerAsk _ yields⟩
  | callTool name view payload next ih =>
    obtain ⟨answer, middle, called, rest⟩ := Run.ok_of_bind ran
    obtain ⟨log, new, during, yields⟩ := Spares.goesOn
      ((callTool_keeps frame minds name view payload world).ok called) found busy
      fun mid found busy => ih answer found busy rest
    exact ⟨_, new, during, .callTool _ yields⟩
  | deliver target message next ih =>
    obtain ⟨answer, middle, posted, rest⟩ := Run.ok_of_bind ran
    obtain ⟨log, new, during, yields⟩ := Spares.goesOn
      ((minds.post target message world trivial).ok posted) found busy
        fun mid found busy => ih _ found busy rest
    exact ⟨_, new, during, .deliver _ yields⟩
  | invoke target payload next ih =>
    obtain ⟨answer, middle, invoked, rest⟩ := Run.ok_of_bind ran
    obtain ⟨log, new, during, yields⟩ := Spares.goesOn
      ((invoke_keeps frame minds target payload world).ok invoked) found busy
      fun mid found busy => ih answer found busy rest
    exact ⟨_, new, during, .invoke _ yields⟩
  | remember memory next ih =>
    have remembered := remember_during memory found
    obtain ⟨log, new, during, yields⟩ := ih remembered.found busy ran
    exact ⟨log, new, remembered.trans during, .remember yields⟩

end Engine

end Troupe
