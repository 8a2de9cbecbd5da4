import Troupe.Proofs.World.Rounds

/-!
# Actors are served in turn

A line takes actors in at its end, each once, and serves them from its front.  Nobody who is pushed
is lost, and who comes first goes first (`Line.Course.Faithful`).  A pump serves the line of the
queued actors, and what is done meanwhile puts actors at its end and takes nobody out
(`World.Lengthens`).  So an actor is drained when all are who stand before it.

## Main results

* `Line.course_faithful`: what any pushes and pops do to a line;
* `engine_lengthens`: what is nested in a pump takes nobody out of the queue;
* `Engine.Drains.lines_up`: who is drained, and in which order;
* `queue_in_turn`: all of it together.
-/

namespace Troupe

open Relation World

/-! ## The line -/

namespace Line

/-- What can be done with a line. -/
inductive Op where
  /-- To put an actor at its end. -/
  | push (actor : Id)
  /-- To take the next actor. -/
  | pop

/-- What happens to a line. -/
inductive Event where
  /-- An actor was pushed, whether it was in line or not. -/
  | pushed (actor : Id)
  /-- An actor was popped. -/
  | popped (actor : Id)

/-- A line, and what has happened to it, latest first. -/
structure Course where
  /-- The line. -/
  line : Line := {}
  /-- What has happened. -/
  history : List Event := []

namespace Course

/-- Push or pop. -/
def after (course : Course) : Op → Course
  | .push actor => ⟨course.line.push actor, .pushed actor :: course.history⟩
  | .pop =>
    match course.line.pop? with
    | none => course
    | some (actor, rest) => ⟨rest, .popped actor :: course.history⟩

end Course

/-- What becomes of the empty line by pushes and pops. -/
def course (ops : List Op) : Course := ops.foldl Course.after {}

/-- Whether an actor waits: it was pushed, and has not been popped since. -/
def waits (actor : Id) : List Event → Bool
  | [] => false
  | .pushed other :: earlier => other == actor || waits actor earlier
  | .popped other :: earlier => other != actor && waits actor earlier

/-- The actors that were popped, in the order in which they were. -/
def pops : List Event → List Id
  | [] => []
  | .pushed _ :: earlier => pops earlier
  | .popped actor :: earlier => pops earlier ++ [actor]

/-- The actors that were pushed for the first time, or for the first time since they were popped
last, in the order in which they were. -/
def arrivals : List Event → List Id
  | [] => []
  | .pushed actor :: earlier =>
    if waits actor earlier then arrivals earlier else arrivals earlier ++ [actor]
  | .popped _ :: earlier => arrivals earlier

/-- A line is what its history makes of it. -/
structure Course.Faithful (course : Course) : Prop extends course.line.Sound where
  /-- Nobody is lost: those are in line who have been pushed and not popped since. -/
  waiting : ∀ actor, actor ∈ course.line.order ↔ waits actor course.history = true
  /-- Those who were popped, and then those who are in line, came in that order. -/
  arrived : arrivals course.history = pops course.history ++ course.line.order
  /-- There is somebody to be popped unless nobody waits. -/
  empty : course.line.pop? = none ↔ ∀ actor, waits actor course.history = false

namespace Course.Faithful

variable {course : Course}

/-- A line whose order is told by its history is faithful. -/
lemma of_order (sound : course.line.Sound)
    (waiting : ∀ actor, actor ∈ course.line.order ↔ waits actor course.history = true)
    (arrived : arrivals course.history = pops course.history ++ course.line.order) :
    course.Faithful where
  toSound := sound
  waiting := waiting
  arrived := arrived
  empty := by
    rw [pop?_eq_none, List.eq_nil_iff_forall_not_mem]
    exact forall_congr' fun actor => by rw [waiting, Bool.not_eq_true]

lemma push (faithful : course.Faithful) (actor : Id) : (course.after (.push actor)).Faithful := by
  refine .of_order (faithful.toSound.push actor) (fun other => ?_) ?_
  · change other ∈ (course.line.push actor).order ↔ _
    rw [faithful.toSound.mem_push, faithful.waiting, or_comm, eq_comm]
    simp [Course.after, waits]
  · change arrivals (.pushed actor :: course.history) =
      pops course.history ++ (course.line.push actor).order
    rw [arrivals, faithful.toSound.order_push, faithful.arrived]
    simp only [faithful.waiting]
    split
    · rfl
    · exact List.append_assoc _ _ _

lemma pop (faithful : course.Faithful) : (course.after .pop).Faithful := by
  unfold Course.after
  cases popped : course.line.pop? with
  | none => exact faithful
  | some next =>
    obtain ⟨actor, rest⟩ := next
    have order := order_of_pop popped
    have nodup := faithful.nodup
    rw [order, List.nodup_cons] at nodup
    refine .of_order (faithful.toSound.pop popped) (fun other => ?_) ?_
    · change other ∈ rest.order ↔ (actor != other && waits other course.history) = true
      rw [Bool.and_eq_true, ← faithful.waiting, order, List.mem_cons, bne_iff_ne]
      constructor
      · exact fun mem => ⟨fun same => nodup.1 (same ▸ mem), .inr mem⟩
      · exact fun waits => waits.2.resolve_left waits.1.symm
    · change arrivals course.history = (pops course.history ++ [actor]) ++ rest.order
      rw [faithful.arrived, order, List.append_assoc, List.singleton_append]

lemma foldl (faithful : course.Faithful) (ops : List Op) :
    (ops.foldl Course.after course).Faithful := by
  induction ops generalizing course with
  | nil => exact faithful
  | cons op rest ih =>
    cases op with
    | push actor => exact ih (faithful.push actor)
    | pop => exact ih faithful.pop

end Course.Faithful

/-- Whatever is pushed and popped, the line is what its history makes of it. -/
theorem course_faithful (ops : List Op) : (course ops).Faithful :=
  .foldl (.of_order sound_empty (by simp [waits]) rfl) ops

end Line

/-! ## The queue of a pump -/

namespace World

variable {world before middle after : World}

/-- What happens while queued actors are being served puts actors at the end of the queue, and takes
nobody out. -/
def Lengthens (before after : World) : Prop :=
  before.pumping = true → after.pumping = true ∧ before.ready.order <+: after.ready.order

namespace Lengthens

protected lemma trans (first : before.Lengthens middle) (second : middle.Lengthens after) :
    before.Lengthens after := fun pumping =>
  ⟨(second (first pumping).1).1, (first pumping).2.trans (second (first pumping).1).2⟩

/-- The queue stays. -/
lemma of_eq (pumping : after.pumping = before.pumping) (ready : after.ready = before.ready) :
    before.Lengthens after :=
  fun still => ⟨pumping.trans still, ready ▸ List.prefix_refl _⟩

end Lengthens

lemma StoreFrame.lengthens (storeFrame : before.StoreFrame after) : before.Lengthens after :=
  fun pumping => ⟨storeFrame.pumping.trans pumping, storeFrame.queued⟩

lemma lengthens_frame : Frame Lengthens Lengthens where
  refl _ := .of_eq rfl rfl
  trans := .trans
  halts := .trans
  halt _ := .of_eq rfl rfl
  write world op := (world.write_storeFrame op).lengthens
  tools _ _ := .of_eq rfl rfl
  ask _ _ _ _ := .of_eq rfl rfl

lemma updateRunning_lengthens (world : World) (actor : Id) (change : Running → Running) :
    world.Lengthens (world.updateRunning actor change) :=
  .of_eq (updateRunning_pumping _ _ _) (updateRunning_ready _ _ _)

lemma turnTo_lengthens (world : World) (actor : Id) (activity : Activity) :
    world.Lengthens (world.turnTo actor activity) :=
  updateRunning_lengthens _ _ _

lemma pick_lengthens (world : World) (actor : Id) (running : Running) (listed : List Id) :
    world.Lengthens (world.pick actor running listed).2 :=
  .of_eq (Engine.pick_pumping _ _ _ _) (pick_ready _ _ _ _)

lemma acceptReply_lengthens (world : World) (receiver message : Id) (entry : Entry) :
    world.Lengthens (world.acceptReply receiver message entry).2 := by
  rcases acceptReply_cases world receiver message entry with same | ⟨_, _, -, -, -, -, done⟩
  · rw [same]
    exact .of_eq rfl rfl
  · rw [done]
    exact .of_eq rfl rfl

lemma afterTurn_lengthens (world : World) (id message : Id) (more : Prop) [Decidable more] :
    world.Lengthens (world.afterTurn id message more) := by
  have marked := (world.mark_storeFrame message).lengthens.trans (turnTo_lengthens _ id .idle)
  unfold afterTurn
  split
  · exact marked.trans (schedule_storeFrame _ id).lengthens
  · exact marked

end World

namespace Engine

variable {engine : Engine} {world before middle after now next later : World} {actor other : Id}

lemma spawnWith_lengthens (keeps : engine.Keeps Lengthens Lengthens) (id : Id) (world : World) :
    Run.Keeps Lengthens Lengthens (engine.spawnWith id) world := by
  have enlisted : ∀ config behavior,
      world.Lengthens ((world.enlist id config behavior).turnTo id .starting) :=
    fun config behavior =>
      Lengthens.trans (.of_eq rfl rfl) (turnTo_lengthens (world.enlist id config behavior) _ _)
  have pass : ∀ config behavior, Run.Keeps Lengthens Lengthens
      (engine.runPass id (behavior.start ⟨id, config⟩ behavior.initialMemory))
      ((world.enlist id config behavior).turnTo id .starting) := fun config behavior =>
    runPass_keeps lengthens_frame keeps (fun world memory => updateRunning_lengthens world id _) _ _
  have startup := engine.spawnWith_startup id world
  rw [Run.Keeps]
  generalize engine.spawnWith id world = result at startup ⊢
  cases startup with
  | running | unrecorded | unloaded => exact .of_eq rfl rfl
  | @passed config behavior last _ _ _ passed =>
    have passes := (enlisted config behavior).trans ((pass config behavior).ok passed)
    exact (passes.trans (turnTo_lengthens _ _ _)).trans (schedule_storeFrame _ id).lengthens
  | @halted config behavior halt last _ _ _ halted =>
    have passes := (enlisted config behavior).trans ((pass config behavior).error halted)
    exact passes.trans (turnTo_lengthens _ _ _)

end Engine

/-- However deep calls nest in a pump, they take nobody out of the queue. -/
theorem engine_lengthens (depth : Nat) : (engine depth).Keeps Lengthens Lengthens := by
  have posts : ∀ depth,
      (∀ id world, Run.Keeps Lengthens Lengthens ((engine depth).spawn id) world) →
      ∀ target message world,
        Run.Keeps Lengthens Lengthens ((engine depth).post target message) world :=
    fun depth starts target message world =>
      Engine.post_keeps lengthens_frame (world.post_storeFrame target message).lengthens
        (starts target)
  induction depth with
  | zero =>
    exact ⟨fun target message world _ => posts 0 (fun _ _ => .of_eq rfl rfl) target message world,
      fun _ => .of_eq rfl rfl, fun _ _ => trivial⟩
  | succ depth ih =>
    refine ⟨fun target message world _ => posts _ (fun id world => ?_) target message world,
      fun world => ?_, fun _ _ => trivial⟩
    · change Run.Keeps _ _ (Engine.spawnAt (depth + 1) id) world
      rw [Engine.spawnAt]
      exact Engine.spawnWith_lengthens ih id world
    · -- nothing is claimed of a pump that is not nested in another
      by_cases pumping : world.pumping = true
      · rw [Run.Keeps, engine_pump_of_pumping depth pumping]
        exact .of_eq rfl rfl
      · rw [Run.Keeps]
        cases (engine (depth + 1)).pump world <;> exact fun still => absurd still pumping

namespace Engine

variable {engine : Engine} {world before middle after now next later : World} {actor other : Id}

lemma Dispatched.lengthens (keeps : engine.Keeps Lengthens Lengthens) {running : Running}
    {message : Id} {entry : Entry} {payload : Json} {rerender : Bool}
    (dispatched : engine.Dispatched actor running message entry payload before rerender after) :
    before.Lengthens after := by
  cases dispatched with
  | mutation event applied => exact (applyMutation_keeps lengthens_frame keeps _ _ _ _).ok applied
  | late event refused => exact acceptReply_lengthens _ _ _ _
  | interpreted _ accepted read work flush =>
    have remember := fun (world : World) memory => updateRunning_lengthens world actor
      fun running => { running with memory }
    have worked := (runPass_keeps lengthens_frame keeps remember _ _).ok work
    have flushed := (runPass_keeps lengthens_frame keeps remember _ _).ok flush
    exact ((acceptReply_lengthens _ _ _ _).trans worked).trans flushed

/-- A turn takes nobody out of the queue. -/
lemma Served.lengthens (keeps : engine.Keeps Lengthens Lengthens) {answer : Option Bool}
    (served : engine.Served actor before answer after) : before.Lengthens after := by
  cases served with
  | still => exact .of_eq rfl rfl
  | passed found idle nothing => exact pick_lengthens _ _ _ _
  | @handled running inbox position message entry _ last found idle read picked validated =>
    have picks := pick_lengthens before actor running (Inbox.entries inbox)
    have turns := picks.trans (turnTo_lengthens _ actor (.handling (Inbox.entries inbox).length))
    refine (turns.trans ?_).trans (afterTurn_lengthens _ _ _ _)
    unfold Validated at validated
    split at validated
    · exact .of_eq (by rw [validated.2]) (by rw [validated.2])
    · exact validated.lengthens keeps

lemma rerender_lengthens (keeps : engine.Keeps Lengthens Lengthens)
    (ran : engine.rerender actor before = .ok () after) : before.Lengthens after := by
  rw [rerender, Run.get_bind] at ran
  cases hook : before.onRerender with
  | none =>
    rw [hook] at ran
    cases ran
    exact .of_eq rfl rfl
  | some script =>
    rw [hook] at ran
    obtain ⟨⟨⟩, middle, noted, ran⟩ := Run.ok_of_bind ran
    cases noted
    have scripted := (runScript_keeps lengthens_frame keeps (script actor) _).ok ran
    exact .trans (.of_eq rfl rfl) scripted

/-- A drain takes nobody out of the queue. -/
lemma drain_lengthens (keeps : engine.Keeps Lengthens Lengthens) {did : Bool}
    (ran : engine.drain actor before = .ok did after) : before.Lengthens after := by
  obtain ⟨outcome, middle, handled, ran⟩ := Run.ok_of_bind ran
  have served := (handleNext_served handled).lengthens keeps
  rcases outcome with _ | _ | _
  · cases ran
    exact served
  · cases ran
    exact served
  · obtain ⟨⟨⟩, last, rendered, returned⟩ := Run.ok_of_bind ran
    cases returned
    exact served.trans (rerender_lengthens keeps rendered)

/-! ## One drain after the other -/

/-- An actor is drained that is the next one in the queue. -/
def DrainOf (engine : Engine) (actor : Id) (before after : World) : Prop :=
  ∃ ready did, before.ready.pop? = some (actor, ready) ∧
    engine.drain actor { before with ready } = .ok did after

/-- Actors are drained one after the other, each when it is the next one in the queue. -/
inductive Drains (engine : Engine) : World → List Id → World → Prop
  /-- Nobody is drained. -/
  | none {world : World} : Drains engine world [] world
  /-- The next actor is drained, and then the others. -/
  | drain {before middle after : World} {actor : Id} {rest : List Id} :
    engine.DrainOf actor before middle → Drains engine middle rest after →
    Drains engine before (actor :: rest) after

lemma Drains.of_cons {rest : List Id} (drains : engine.Drains before (actor :: rest) after) :
    ∃ middle, engine.DrainOf actor before middle ∧ engine.Drains middle rest after := by
  cases drains with
  | drain first rest => exact ⟨_, first, rest⟩

lemma Drains.rounds {drained : List Id} (drains : engine.Drains before drained after) :
    engine.Rounds before after := by
  induction drains with
  | none => exact .refl
  | drain first _ ih => exact .head ⟨_, first⟩ ih

lemma Rounds.exists_drains (rounds : engine.Rounds before after) :
    ∃ drained, engine.Drains before drained after := by
  induction rounds using ReflTransGen.head_induction_on with
  | refl => exact ⟨[], .none⟩
  | head first _ ih =>
    obtain ⟨actor, first⟩ := first
    obtain ⟨rest, drains⟩ := ih
    exact ⟨actor :: rest, .drain first drains⟩

/-- A drain takes the first actor out of the queue, and nobody else; others may line up behind. -/
lemma DrainOf.lines_up (keeps : engine.Keeps Lengthens Lengthens) (pumping : before.pumping = true)
    (drained : engine.DrainOf actor before after) : after.pumping = true ∧
      ∃ behind new, before.ready.order = actor :: behind ∧ after.ready.order = behind ++ new := by
  obtain ⟨ready, did, popped, ran⟩ := drained
  obtain ⟨still, new, longer⟩ := drain_lengthens keeps ran pumping
  exact ⟨still, ready.order, new, ReadyQueue.pop?_some popped, longer.symm⟩

/-- Those who are drained are those who were queued, and then those who have lined up since. -/
lemma Drains.lines_up (keeps : engine.Keeps Lengthens Lengthens) {drained : List Id}
    (drains : engine.Drains before drained after) (pumping : before.pumping = true) :
    after.pumping = true ∧ ∃ new, before.ready.order ++ new = drained ++ after.ready.order := by
  induction drains with
  | none => exact ⟨pumping, [], by simp⟩
  | drain first _ ih =>
    obtain ⟨still, behind, new, order, longer⟩ := first.lines_up keeps pumping
    obtain ⟨on, later, eq⟩ := ih still
    refine ⟨on, new ++ later, ?_⟩
    rw [order, List.cons_append, List.cons_append, ← eq, longer, List.append_assoc]

end Engine

/-- Whether a note is of an entry that an actor began to handle. -/
def Note.ofTaking : Note → Bool
  | .taken .. => true
  | _ => false

lemma Journal.Inner.countP_ofTaking {notes : List Note} (inner : Journal.Inner notes) :
    notes.countP Note.ofTaking = 0 := by
  refine List.countP_eq_zero.2 fun note mem taking => ?_
  cases note with
  | taken => cases inner.not_ofEntry _ mem
  | _ => cases taking

/-- In a drain one entry is handled at most. -/
lemma Journal.Turn.countP_ofTaking {actor : Id} {did : Bool} {notes : List Note}
    (turn : Journal.Turn actor did notes) : notes.countP Note.ofTaking = did.toNat := by
  have skipped : ∀ {skips : List Note}, (∀ note ∈ skips, ∃ inbox position message found,
      note = .passed actor inbox position message found) → skips.countP Note.ofTaking = 0 := by
    intro skips passed
    refine List.countP_eq_zero.2 fun note mem => ?_
    obtain ⟨_, _, _, _, rfl⟩ := passed note mem
    simp [Note.ofTaking]
  cases turn with
  | nothing passed => exact skipped passed
  | entry passed handled marked rendered =>
    have marks : ∀ {marks : List Note} {message : Id}, marks = [] ∨ marks = [.marked message] →
        marks.countP Note.ofTaking = 0 := by
      rintro _ _ (rfl | rfl) <;> rfl
    rw [List.countP_append, List.countP_append, List.countP_append, List.countP_cons,
      rendered.countP_ofTaking, handled.countP_ofTaking, skipped passed, marks marked]
    rfl

namespace Engine

variable {engine : Engine} {start : World}

/-- Queued actors are drained in turn, from a state on in which they are being served. -/
structure RoundRobin (engine : Engine) (start : World) : Prop where
  /-- An actor is drained after exactly those who stand before it; until then it is queued. -/
  turn : ∀ {sofar late ahead behind : List Id} {actor : Id} {now later : World},
    engine.Drains start sofar now → now.ready.order = ahead ++ actor :: behind →
    engine.Drains now late later →
    ahead ++ [actor] <+: late ∨ late <+: ahead ∧ actor ∈ later.ready.order
  /-- Between two successive drains of an actor all those are drained who stood behind it, before
  anybody else and in their order; and nobody of them is drained twice, if the actor is queued again
  when its first drain is over. -/
  between : ∀ {sofar between rest : List Id} {actor : Id} {now next later : World},
    engine.Drains start sofar now → engine.DrainOf actor now next →
    engine.Drains next (between ++ actor :: rest) later → actor ∉ between →
    now.ready.order.tail <+: between ∧ ∀ other ∈ now.ready.order, other ≠ actor →
      1 ≤ between.count other ∧ (actor ∈ next.ready.order → between.count other = 1)
  /-- A drain handles one entry at most. -/
  entry : ∀ {sofar : List Id} {actor : Id} {now next : World},
    engine.Drains start sofar now → engine.DrainOf actor now next →
    ∃ notes, next.journal = notes ++ now.journal ∧ notes.countP Note.ofTaking ≤ 1

variable {sofar late ahead behind between rest : List Id} {actor : Id} {now next later : World}

/-- Who stands in the queue is drained after those who stand before it, or still queued. -/
lemma Drains.turn (keeps : engine.Keeps Lengthens Lengthens) (pumping : now.pumping = true)
    (order : now.ready.order = ahead ++ actor :: behind) (drains : engine.Drains now late later) :
    ahead ++ [actor] <+: late ∨ late <+: ahead ∧ actor ∈ later.ready.order := by
  obtain ⟨-, new, lined⟩ := drains.lines_up keeps pumping
  have first : ahead ++ [actor] <+: late ++ later.ready.order :=
    ⟨behind ++ new, by rw [← lined, order]; simp⟩
  rcases List.prefix_or_prefix_of_prefix first (List.prefix_append _ _) with reached | short
  · exact .inl reached
  rcases List.prefix_concat_iff.1 short with same | early
  · exact .inl (same ▸ List.prefix_refl _)
  · obtain ⟨left, rfl⟩ := early
    refine .inr ⟨List.prefix_append _ _, ?_⟩
    rw [List.append_assoc] at first
    exact ((List.prefix_append_right_inj _).1 first).subset (by simp)

/-- Whoever is queued after a drain and not drained until a later one is not drained twice before
it, and whoever was queued first is drained first. -/
lemma Drains.prefix_between (keeps : engine.Keeps Lengthens Lengthens)
    (pumping : next.pumping = true) (drains : engine.Drains next (between ++ actor :: rest) later)
    (absent : actor ∉ between) :
    (∀ front, front <+: next.ready.order → actor ∉ front → front <+: between) ∧
      (actor ∈ next.ready.order → between.Nodup) := by
  obtain ⟨-, new, lined⟩ := drains.lines_up keeps pumping
  have queued : next.ready.order <+: between ++ actor :: (rest ++ later.ready.order) :=
    ⟨new, by rw [lined]; simp⟩
  have drained : between ++ [actor] <+: between ++ actor :: (rest ++ later.ready.order) := by simp
  constructor
  · intro front first missing
    rcases List.prefix_or_prefix_of_prefix (first.trans queued) drained with short | long
    · rcases List.prefix_concat_iff.1 short with same | early
      · exact absurd (by simp [same]) missing
      · exact early
    · exact absurd (long.subset (by simp)) missing
  · intro again
    rcases List.prefix_or_prefix_of_prefix queued (List.prefix_append between _) with short | long
    · exact absurd (short.subset again) absent
    · exact next.ready.sound.nodup.sublist long.sublist

/-- Queued actors are drained in turn. -/
theorem roundRobin (keeps : engine.Keeps Lengthens Lengthens) (nested : engine.Keeps Nested Nested)
    (pumping : start.pumping = true) : engine.RoundRobin start where
  turn early order drains := drains.turn keeps (early.lines_up keeps pumping).1 order
  between {_ _ _ _ now _ _} early first drains absent := by
    have on := (early.lines_up keeps pumping).1
    obtain ⟨still, behind, new, order, longer⟩ := first.lines_up keeps on
    obtain ⟨prefixes, once⟩ := drains.prefix_between keeps still absent
    have nodup := now.ready.sound.nodup
    rw [order] at nodup ⊢
    have served := prefixes behind (longer ▸ List.prefix_append _ _) (List.nodup_cons.1 nodup).1
    refine ⟨served, fun other mem ne => ?_⟩
    have among := served.subset ((List.mem_cons.1 mem).resolve_left ne)
    exact ⟨List.one_le_count_iff.2 among,
      fun again => List.count_eq_one_of_mem (once again) among⟩
  entry early drained := by
    obtain ⟨ready, did, popped, ran⟩ := drained
    have on := (early.lines_up keeps pumping).1
    obtain ⟨notes, journal, turn⟩ := (drain_drained nested (by exact on) ran).journal
    refine ⟨notes, journal, ?_⟩
    rw [turn.countP_ofTaking]
    exact Bool.toNat_le did

end Engine

/-- **The queue is served in turn.**  Whatever is pushed to a line and popped from it, nobody is in
it twice, its set holds exactly those who are in it, those who are pushed come out in the order in
which they were, and nobody is lost.  In a pump, whatever is delivered and scheduled meanwhile, an
actor is drained after exactly those who stand before it; between two successive drains of it all
the others are drained that were queued at the first of them, once each if it is queued again when
its first drain is over; and each drain handles one entry at most.  A pump that returns has drained
whoever was queued. -/
theorem queue_in_turn (ops : List Line.Op) (depth : Nat) (start : World) :
    (Line.course ops).Faithful ∧ (engine depth).RoundRobin { start with pumping := true } ∧
    ∀ handled last, start.pumping = false → (engine (depth + 1)).pump start = .ok handled last →
      last.ready.order = [] ∧ ∀ sofar now,
        (engine depth).Drains { start with pumping := true } sofar now →
        ∃ late, (engine depth).Drains now late { last with pumping := true } ∧
          ∀ ahead actor behind, now.ready.order = ahead ++ actor :: behind →
            ahead ++ [actor] <+: late := by
  have turns : (engine depth).RoundRobin { start with pumping := true } :=
    Engine.roundRobin (engine_lengthens depth) (engine_encloses depth).1 rfl
  refine ⟨Line.course_faithful ops, turns, fun handled last outermost ran => ?_⟩
  have served : last.ready.order = [] := (Engine.pump_rounds outermost ran .refl).2
  refine ⟨served, fun sofar now early => ?_⟩
  obtain ⟨rounds, -⟩ := Engine.pump_rounds outermost ran early.rounds
  obtain ⟨late, drains⟩ := rounds.exists_drains
  refine ⟨late, drains, fun ahead actor behind order => ?_⟩
  rcases turns.turn early order drains with reached | ⟨-, queued⟩
  · exact reached
  · exact absurd queued (by simp [served])

namespace Sample

/-- An actor beside the first one. -/
def rival : Id := .ofNat 8

/-- The record of a process that accepts two events and does something on the first. -/
def racer (inbox context : Nat) (actions : List Json) : Json :=
  ActorConfig.toJson
    ⟨["GO", "NOTE"], .ofNat inbox, .ofNat context,
      .record [("kind", .str "process"), ("handlers", .record
        [("GO", .arr actions), ("NOTE", .arr [])])],
      none, ∅, Table.ofList [("GO", .bool true), ("NOTE", .bool true)]⟩

/-- A note to an actor, as it stands in a behavior. -/
def noteTo (target : Id) : Json :=
  .record [("tell", .record
    [("target", .id target), ("type", .str "NOTE"), ("payload", .empty)])]

/-- A runtime with two actors, each of which has been told to go.  The second one sends a note to
itself then, and one to the first. -/
def race : World :=
  World.new {} (Store.ofImage ⟨.ofNat, 20⟩ ⟨Table.ofList
    [(.ofNat 1, .obj [("entries", .arr [.id (.ofNat 4)])]),
      (.ofNat 2, .empty), (actor, racer 1 2 []),
      (.ofNat 4, (Entry.pending actor { type := "GO", payload := .empty }).toJson),
      (.ofNat 6, .obj [("entries", .arr [.id (.ofNat 9)])]),
      (.ofNat 7, .empty), (rival, racer 6 7 [noteTo rival, noteTo actor]),
      (.ofNat 9, (Entry.pending rival { type := "GO", payload := .empty }).toJson)], ∅⟩)
    ⟨.ofNat, 0⟩ ⟨0, 1000⟩

/-- Whether these are the next actors to be drained. -/
def drains : List Id → World → Bool
  | [], _ => true
  | actor :: rest, world =>
    match world.ready.pop? with
    | some (next, ready) =>
      next == actor && ((engine 4).drain actor).returns (fun _ => drains rest) { world with ready }
    | none => false

lemma exists_drains {actors : List Id} {world : World} (drained : drains actors world) :
    ∃ after, (engine 4).Drains world actors after := by
  induction actors generalizing world with
  | nil => exact ⟨world, .none⟩
  | cons actor rest ih =>
    unfold drains at drained
    split at drained
    · rename_i next ready popped
      obtain ⟨same, returned⟩ := Bool.and_eq_true_iff.1 drained
      obtain rfl := eq_of_beq same
      obtain ⟨did, middle, ran, drained⟩ := Run.exists_of_returns _ _ _ returned
      obtain ⟨after, drains⟩ := ih drained
      exact ⟨after, .drain ⟨ready, did, popped, ran⟩ drains⟩
    · cases drained

/-- Both actors are started, and a pump drains the first one, the second one twice, and the first
one again. -/
lemma exists_race : ∃ start next after last handled, Session race start ∧
    start.pumping = false ∧ start.ready.order = [actor, rival] ∧
    (engine 5).pump start = .ok handled last ∧
    (engine 4).DrainOf actor { start with pumping := true } next ∧
    (engine 4).Drains next [rival, rival, actor] after := by
  have begun : Session race race := .first
  obtain ⟨start, session, tested⟩ := Session.exists_of_allReturn 1 [.start actor, .start rival]
    (fun start => start.ready.order == [actor, rival] && !start.pumping &&
      (engine 5).pump.returns (fun _ _ => true) start &&
      drains [actor, rival, rival, actor] { start with pumping := true })
    begun (by decide +kernel)
  simp only [Bool.and_eq_true, beq_iff_eq, Bool.not_eq_true'] at tested
  obtain ⟨⟨⟨order, outermost⟩, returned⟩, drained⟩ := tested
  obtain ⟨handled, last, ran, -⟩ := Run.exists_of_returns _ _ _ returned
  obtain ⟨after, drains⟩ := exists_drains drained
  obtain ⟨next, first, rest⟩ := drains.of_cons
  exact ⟨start, next, after, last, handled, session, outermost, order, ran, first, rest⟩

end Sample

/-- Whoever is queued when an actor is drained may be drained twice before the actor is drained
again: of two queued actors the second one puts itself into the queue, and then the first one. -/
theorem Engine.drains_twice_between : ∃ (start next after last : World) (handled : Nat),
    Session Sample.race start ∧ start.pumping = false ∧ Sample.rival ∈ start.ready.order ∧
    (engine 5).pump start = .ok handled last ∧
    (engine 4).DrainOf Sample.actor { start with pumping := true } next ∧
    (engine 4).Drains next ([Sample.rival, Sample.rival] ++ [Sample.actor]) after ∧
    Sample.actor ∉ [Sample.rival, Sample.rival] ∧
    [Sample.rival, Sample.rival].count Sample.rival ≠ 1 := by
  obtain ⟨start, next, after, last, handled, session, outermost, order, ran, first, rest⟩ :=
    Sample.exists_race
  exact ⟨start, next, after, last, handled, session, outermost, by simp [order], ran, first, rest,
    by decide, by decide⟩

/-- The second of two queued actors is drained right after the first one, and a pump drains both. -/
theorem queue_in_turn_race : ∃ (start last : World) (handled : Nat) (late : List Id),
    Session Sample.race start ∧ start.ready.order = [Sample.actor, Sample.rival] ∧
    (engine 5).pump start = .ok handled last ∧ last.ready.order = [] ∧
    (engine 4).Drains { start with pumping := true } late { last with pumping := true } ∧
    [Sample.actor, Sample.rival] <+: late ∧
    (Line.course [.push Sample.actor, .push Sample.rival, .push Sample.actor, .pop]).line.order =
      [Sample.rival] := by
  obtain ⟨start, -, -, last, handled, session, outermost, order, ran, -, -⟩ := Sample.exists_race
  obtain ⟨faithful, -, pumps⟩ := queue_in_turn
    [.push Sample.actor, .push Sample.rival, .push Sample.actor, .pop] 4 start
  obtain ⟨served, drains⟩ := pumps handled last outermost ran
  obtain ⟨late, drained, turn⟩ := drains [] _ .none
  exact ⟨start, last, handled, late, session, order, ran, served, drained,
    turn [Sample.actor] Sample.rival [] order, List.append_cancel_left faithful.arrived.symm⟩

end Troupe
