import Troupe.Proofs.Behavior.Choice
import Troupe.Proofs.World.Keeps

/-!
# Handling an event, or ignoring it

Looking at guards leaves no trace, so a machine that takes a transition does what it would do if
there had been no guards; and if a machine or a process has nothing for an event, the pass leaves no
trace either.

## Main results

* `Engine.send_chooses`: an event has the first qualifying candidate taken, or nothing happens.
-/

namespace Troupe

/-- The definition of a machine gives a value for an event in a state. -/
def Json.Gives (definition : Json) (state event : String) (listed : Json) : Prop :=
  ∃ states content on, definition.field? "states" = some (.obj states) ∧
    (state, content) ∈ states ∧ content.field? "on" = some (.obj on) ∧ (event, listed) ∈ on

/-- What handling an event comes to, by what the behavior has for it. -/
structure Engine.Chooses (engine : Engine) (behavior : Behavior) (actor : Actor) (memory : Memory)
    (event : Event) (world : World) : Prop where
  /-- The candidates of a loaded machine are those that its definition gives, in that order. -/
  ordered : ∀ definition limit suppressed value config,
    behavior = .machine definition limit suppressed → Behavior.load value config = .ok behavior →
    ∀ state node candidates, definition.states.find? state = some node →
      node.on.find? event.name = some candidates →
      ∃ listed, value.Gives state event.name listed ∧ Candidate.listOf listed = .ok candidates
  /-- Either a machine has nothing for the event, or there is a first candidate that qualifies. -/
  decides : ∀ definition limit suppressed, behavior = .machine definition limit suppressed →
    behavior.Ignores memory (.asContext (world.store.read actor.config.context)) event ∨
    ∃ state node candidate, Machine.Chosen definition memory
      (.asContext (world.store.read actor.config.context)) event state node candidate
  /-- That one is taken, in the state in which the event is met, as if no guard had been looked
  at; and taking it commits to the state that it leads to. -/
  takes : ∀ definition limit suppressed state node candidate,
    behavior = .machine definition limit suppressed →
    Machine.Chosen definition memory (.asContext (world.store.read actor.config.context)) event
      state node candidate →
    let taking := Machine.take definition limit suppressed actor event memory state node candidate
      { Activation.ofContext (world.store.read actor.config.context) with state := some state }
    engine.runPass actor.id (behavior.send actor memory event) world =
      engine.runPass actor.id
        (taking >>= fun outcome => behavior.conclude actor event (some outcome)) world ∧
    ∀ log outcome after, taking.Yields memory log outcome after →
      outcome.2.handled = true ∧ after.state = some candidate.target
  /-- Where there is nothing for the event, nothing at all changes, and the event counts as not
  handled. -/
  ignores :
    behavior.Ignores memory (.asContext (world.store.read actor.config.context)) event →
    engine.runPass actor.id (behavior.send actor memory event) world =
      .ok { handled := false, rerender := false } world

/-- **The first candidate that qualifies is taken**, on the context as it was before the pass; and
**an event that a behavior has nothing for changes nothing**. -/
theorem Engine.send_chooses (engine : Engine) (behavior : Behavior) (actor : Actor)
    (memory : Memory) (event : Event) (world : World) :
    engine.Chooses behavior actor memory event world where
  ordered definition limit suppressed value config := by
    rintro rfl loaded state node candidates declared listed
    obtain ⟨states, content, given, mem, read⟩ :=
      MachineDefinition.exists_of_find?_ofJson (Behavior.ofJson_of_load loaded) declared
    obtain ⟨on, value, there, entry, own⟩ := StateNode.exists_of_find?_ofJson read listed
    exact ⟨value, ⟨states, content, on, given, mem, there, entry⟩, own⟩
  decides definition limit suppressed := by
    rintro rfl
    exact or_iff_not_imp_left.2 Behavior.exists_chosen
  takes definition limit suppressed state node candidate := by
    rintro rfl chosen
    obtain ⟨next, begins, goesOn⟩ := Behavior.send_of_chosen actor limit suppressed chosen
    refine ⟨?_, fun log outcome after yields => ?_⟩
    · rw [begins, ← goesOn]
      rfl
    · obtain ⟨handled, rfl⟩ := Machine.take_commits yields
      exact ⟨handled, rfl⟩
  ignores nothing := by
    rcases Behavior.send_of_ignores actor nothing with same | ⟨next, begins, same⟩
    · rw [same]
      rfl
    · rw [begins]
      change engine.runPass actor.id (next (world.store.read actor.config.context)) world = _
      rw [same]
      rfl

namespace Sample

/-- A turnstile breaks if its context says that it was pushed too often. -/
def breaking : Candidate := ⟨"broken", some (.expr (.str "$context.pushes > 9")), []⟩

/-- It turns if it stands still. -/
def turning : Candidate :=
  ⟨"turning", some (.schema (.record [("properties", .record
    [("state", .record [("const", .str "still")])])])), []⟩

/-- What it does when it stands still and is pushed; else it would break. -/
def still : StateNode := ⟨[], [], .ofList [("PUSH", [breaking, turning, { target := "broken" }])]⟩

/-- A turnstile. -/
def turnstile : MachineDefinition :=
  ⟨"still", .ofList [("still", still), ("turning", ⟨[], [], ∅⟩), ("broken", ⟨[], [], ∅⟩)], ⟨∅⟩⟩

/-- A push. -/
def push : Event := ⟨"PUSH", .empty, none, none⟩

/-- An actor with an empty context. -/
def porter : Actor := ⟨.ofNat 3, ⟨["PUSH"], .ofNat 1, .ofNat 2, .null, none, ∅, ∅⟩⟩

/-- A runtime with this context. -/
def lobby : World :=
  World.new {} (Store.ofImage ⟨.ofNat, 10⟩ ⟨Table.ofList [(.ofNat 2, .empty)], ∅⟩) ⟨.ofNat, 0⟩
    ⟨0, 1000⟩

/-- A turnstile that stands still. -/
def standing : Memory := { state := some "still" }

/-- Whether a push was handled and the context says that the turnstile turns. -/
def turned (dispatch : Dispatch) (world : World) : Bool :=
  dispatch == ⟨true, true⟩ &&
    ((world.store.read (.ofNat 2)).bind fun context => context.field? "state").bind Json.string? ==
      some "turning"

end Sample

/-- A turnstile whose context does not say how often it was pushed turns. -/
theorem Engine.turnstile_turns :
    ((engine 1).runPass Sample.porter.id ((Behavior.machine Sample.turnstile 5 []).send
      Sample.porter Sample.standing Sample.push)).returns Sample.turned Sample.lobby := by
  have unasked : Machine.qualifies
      { Activation.ofContext (Sample.lobby.store.read (.ofNat 2)) with state := some "still" }
      Sample.push Sample.breaking = false := by decide +kernel
  have asked : Machine.qualifies
      { Activation.ofContext (Sample.lobby.store.read (.ofNat 2)) with state := some "still" }
      Sample.push Sample.turning = true := by decide +kernel
  have chosen : Machine.Chosen Sample.turnstile Sample.standing
      (.asContext (Sample.lobby.store.read (.ofNat 2))) Sample.push "still" Sample.still
      Sample.turning := by
    refine ⟨rfl, rfl, ⟨[Sample.breaking], _, rfl, fun other mem does => ?_⟩,
      Machine.qualifies_iff.1 asked⟩
    cases List.mem_singleton.1 mem
    rw [Machine.qualifies_iff.2 does] at unasked
    cases unasked
  have chooses := Engine.send_chooses (engine 1) (.machine Sample.turnstile 5 []) Sample.porter
    Sample.standing Sample.push Sample.lobby
  rw [Run.returns, (chooses.takes _ _ _ _ _ _ rfl chosen).1]
  decide +kernel

end Troupe
