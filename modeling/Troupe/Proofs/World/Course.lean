import Troupe.Proofs.Behavior.Course
import Troupe.Proofs.World.Tenure

/-!
# Machines stay consistent

What an actor that runs remembers is what is remembered in the course of its behavior: its start and
its turns are steps of that course, and nothing else changes what it remembers.  So whenever no pass
is under way, a machine is in a declared state, and its history is consistent with its definition.

## Main results

* `World.onCourse_maintained`: an actor keeps to the course of its behavior;
* `Quiet.exists_course`: so every actor that runs is on it;
* `Behavior.machine_stays_consistent`: what holds of a loaded machine in its course, and of every
  machine that runs.
-/

namespace Troupe

/-! ## An actor that is running -/

/-- What an actor remembers is remembered in the course of its behavior, which was loaded from its
record. -/
structure Running.OnCourse (running : Running) (id : Id) : Prop where
  /-- The behavior was loaded. -/
  loaded : ∃ config, Behavior.load running.config.behavior config = .ok running.behavior
  /-- It has come to what it remembers in its course. -/
  course : ∃ committed, running.behavior.Course ⟨id, running.config⟩ committed running.memory

lemma Running.OnCourse.of_kept {old new : Running} {id : Id} (onCourse : old.OnCourse id)
    (kept : old.Kept new) (same : new.memory = old.memory) : new.OnCourse id where
  loaded := by
    rw [kept.config, kept.behavior]
    exact onCourse.loaded
  course := by
    rw [kept.config, kept.behavior, same]
    exact onCourse.course

namespace World

/-- While no pass of an actor is under way, it is on the course of its behavior. -/
structure OnCourse (actor : Id) (world : World) : Prop where
  /-- No pass of the actor is under way, -/
  idle : ∀ running, world.running.find? actor = some running → running.activity = .idle
  /-- and it is on its course. -/
  running : ∀ running, world.running.find? actor = some running → running.OnCourse actor

lemma onCourse_stable (actor : Id) : Stable actor (OnCourse actor) := by
  intro before after apart onCourse
  refine ⟨fun running found => ?_, fun running found => ?_⟩
  · exact onCourse.idle running (apart.running ▸ found)
  · exact onCourse.running running (apart.running ▸ found)

/-- An actor that does not run is on no other course. -/
lemma onCourse_of_stopped {actor : Id} {world : World} (stopped : world.running.find? actor = none) :
    world.OnCourse actor := by
  refine ⟨fun running found => ?_, fun running found => ?_⟩ <;>
  · rw [stopped] at found
    cases found

end World

namespace Engine

open World

variable {engine : Engine} {id : Id} {P : World → Prop} {world after : World}
variable {running new : Running}

/-- What a turn makes of what is remembered is a step of the course at most. -/
lemma Alters.onCourse {before last : Store} {memory : Memory} (onCourse : running.OnCourse id)
    (kept : running.Kept new) (alters : engine.Alters id running before last memory)
    (remembers : new.memory = memory) : new.OnCourse id := by
  cases alters with
  | stays => exact onCourse.of_kept kept remembers
  | @handles world worked last busy done event outcome dispatch log idle earlier found turned same
      work flush during yields later =>
    obtain ⟨loaded, committed, course⟩ := onCourse
    rw [← remembers] at yields
    refine ⟨kept.config ▸ kept.behavior ▸ loaded,
      committed ++ running.memory.commits event dispatch new.memory, ?_⟩
    rw [kept.config, kept.behavior]
    exact .handled course yields

/-- The turn of an actor keeps it on its course. -/
lemma Served.onCourse {answer : Option Bool} (stable : Stable id P) (minds : engine.Minds id P)
    (served : engine.Served id world answer after) (onCourse : world.OnCourse id) :
    after.OnCourse id := by
  cases found : world.running.find? id with
  | none => exact served.eq_of_stopped found ▸ onCourse
  | some running =>
    obtain ⟨new, during, alters⟩ := served.during stable minds found
    refine ⟨fun other there => ?_, fun other there => ?_⟩
    · obtain rfl := Option.some.inj (during.found.symm.trans there)
      exact during.kept.activity.trans (onCourse.idle running found)
    · obtain rfl := Option.some.inj (during.found.symm.trans there)
      exact alters.onCourse (onCourse.running running found) during.kept rfl

/-- The start of an actor sets out on the course of its behavior. -/
lemma Started.onCourse (stable : Stable id P) (minds : engine.Minds id P)
    (started : engine.Started id world after) (onCourse : world.OnCourse id) :
    after.OnCourse id := by
  rcases started.begins stable minds with rfl | ⟨new, begins⟩
  · exact onCourse
  · refine ⟨fun other there => ?_, fun other there => ?_⟩
    · obtain rfl := Option.some.inj (begins.found.symm.trans there)
      exact begins.idle
    · obtain rfl := Option.some.inj (begins.found.symm.trans there)
      obtain ⟨log, starts⟩ := begins.yields
      exact ⟨⟨_, begins.loaded⟩, [], .started starts⟩

end Engine

open World

/-- An actor keeps to its course whatever goes on. -/
theorem World.onCourse_maintained (actor : Id) : Maintained actor (OnCourse actor) where
  stable := onCourse_stable actor
  starts minds started := started.onCourse (onCourse_stable actor) minds
  serves minds served := served.onCourse (onCourse_stable actor) minds

/-- Whenever no pass is under way, every actor that was started is on the course of its behavior. -/
theorem Quiet.exists_course {first world : World} {actor : Id} {running : Running}
    (quiet : Quiet first world) (stopped : first.running.find? actor = none)
    (found : world.running.find? actor = some running) : running.OnCourse actor := by
  have onCourse := quiet.along (onCourse_maintained actor) (motive := OnCourse actor)
    (onCourse_of_stopped stopped) (fun _ _ _ _ spares => spares.keeps)
    fun _ _ loses _ => onCourse_of_stopped loses.stopped
  exact onCourse.running running found

/-! ## Machines -/

/-- What holds of a machine whatever it is given, and of every actor with this behavior. -/
structure MachineDefinition.StaysConsistent (definition : MachineDefinition) (limit : Nat)
    (suppressed : List String) : Prop where
  /-- The first state is declared, -/
  initial : ∃ node, definition.states.find? definition.initial = some node
  /-- and in its course a machine stays consistent. -/
  course : ∀ actor committed memory,
    (Behavior.machine definition limit suppressed).Course actor committed memory →
    definition.Consistent limit committed memory
  /-- An event that is handled has the machine commit a transition.  Where the pass is stopped
  before the entry actions, they are not run, and the transition is committed no less. -/
  commits : ∀ actor before event log dispatch after,
    ((Behavior.machine definition limit suppressed).send actor before event).Yields before log
      dispatch after →
    dispatch.handled = false ∧ after = before ∨
    dispatch.handled = true ∧ ∃ route : Machine.Route,
      route.Runs definition limit actor before event log after ∧
      (route.flow = .stop → route.CutsShort actor)
  /-- Every actor with this behavior that was started is consistent whenever no pass is under
  way. -/
  running : ∀ first world actor running, Quiet first world → first.running.find? actor = none →
    world.running.find? actor = some running →
    running.behavior = .machine definition limit suppressed →
    ∃ committed, running.behavior.Course ⟨actor, running.config⟩ committed running.memory ∧
      definition.Consistent limit committed running.memory

/-- **What a machine remembers is always consistent with its definition.** -/
theorem Behavior.machine_stays_consistent {value : Json} {config : Config}
    {definition : MachineDefinition} {limit : Nat} {suppressed : List String}
    (loaded : load value config = .ok (.machine definition limit suppressed)) :
    limit = config.historyLimit.toNat ∧ definition.StaysConsistent limit suppressed := by
  have known := MachineDefinition.declared_of_ofJson (ofJson_of_load loaded)
  have consistent : ∀ actor committed memory,
      (machine definition limit suppressed).Course actor committed memory →
      definition.Consistent limit committed memory :=
    fun _ _ _ course => (course.coherent known).consistent known
  refine ⟨?_, Option.isSome_iff_exists.1 known.initial, consistent, ?_, ?_⟩
  · cases loaded.symm.trans (load_of_load loaded config)
    rfl
  · intro actor before event log dispatch after yields
    refine (Machine.send_routes yields).imp_right fun ⟨handled, route, runs⟩ => ?_
    exact ⟨handled, route, runs, runs.cutsShort⟩
  · intro first world actor running quiet stopped found machine
    obtain ⟨-, committed, course⟩ := quiet.exists_course stopped found
    exact ⟨committed, course, consistent _ _ _ (machine ▸ course)⟩

namespace Sample

/-- The behavior of a siren.  An alarm makes it loud, though the action on the way fails, and
another one calm again. -/
def siren : Json := .record
  [("kind", .str "machine"), ("initial", .str "calm"),
    ("states", .record
      [("calm", .record [("on", .record [("ALARM", .record
        [("target", .str "loud"), ("actions", .record [("function", .empty)])])])]),
        ("loud", .record
          [("entry", .record [("ctx", .record [("heard", .bool true)])]),
            ("on", .record [("ALARM", .str "calm")])])])]

/-- The identifier of an actor. -/
def watchman : Id := .ofNat 3

/-- A runtime whose actors remember one transition, with a siren whose inbox lists two alarms. -/
def alarmed : World :=
  World.new { historyLimit := 1 } (Store.ofImage ⟨.ofNat, 10⟩ ⟨Table.ofList
    [(.ofNat 1, .obj [("entries", .arr [.id (.ofNat 4), .id (.ofNat 5)])]),
      (.ofNat 2, .empty),
      (watchman, (ActorConfig.toJson ⟨["ALARM"], .ofNat 1, .ofNat 2, siren, none, ∅,
        Table.ofList [("ALARM", .bool true)]⟩)),
      (.ofNat 4, (Entry.pending watchman { type := "ALARM", payload := .empty }).toJson),
      (.ofNat 5, (Entry.pending watchman { type := "ALARM", payload := .empty }).toJson)], ∅⟩)
    ⟨.ofNat, 0⟩ ⟨0, 1000⟩

/-- Whether a siren remembers one transition, back to the state that its context names, and its
context does not say that the entry actions of the loud state were run. -/
def calmed (world : World) : Bool :=
  (world.running.find? watchman).any (fun running =>
    running.memory.history == [⟨"loud", "calm", "ALARM"⟩] && match running.behavior with
      | .machine .. => true
      | .process .. => false) &&
  (world.store.read (.ofNat 2)).any fun context =>
    (context.field? "state").bind Json.string? == some "calm" && (context.field? "heard").isNone

end Sample

/-- A siren that was stopped on its way to being loud was loud all the same, and is calm again after
another alarm; it remembers the latest transition, and is consistent. -/
theorem Behavior.siren_stays_consistent :
    ∃ world running definition limit suppressed committed,
      Quiet Sample.alarmed world ∧ world.running.find? Sample.watchman = some running ∧
      running.behavior = .machine definition limit suppressed ∧
      definition.Consistent limit committed running.memory ∧
      running.memory.history = [⟨"loud", "calm", "ALARM"⟩] ∧ Sample.calmed world := by
  obtain ⟨⟨⟩, world, ran, tested⟩ := Run.exists_of_returns (Command.run 4 (.spawn Sample.watchman))
    (fun _ world => Sample.calmed world) Sample.alarmed (by decide +kernel)
  have quiet : Quiet Sample.alarmed world := Quiet.first.returned 4 _ ran
  have remembers := tested
  simp only [Sample.calmed, Bool.and_eq_true, Option.any_eq_true, beq_iff_eq] at remembers
  obtain ⟨⟨running, found, history, machine⟩, -⟩ := remembers
  have stopped : Sample.alarmed.running.find? Sample.watchman = none := rfl
  cases behavior : running.behavior with
  | process => simp [behavior] at machine
  | machine definition limit suppressed =>
    obtain ⟨config, loaded⟩ := (quiet.exists_course stopped found).loaded
    rw [behavior] at loaded
    obtain ⟨-, stays⟩ := Behavior.machine_stays_consistent loaded
    obtain ⟨committed, -, consistent⟩ := stays.running _ _ _ _ quiet stopped found behavior
    exact ⟨world, running, definition, limit, suppressed, committed, quiet, found, behavior,
      consistent, history, tested⟩

end Troupe
