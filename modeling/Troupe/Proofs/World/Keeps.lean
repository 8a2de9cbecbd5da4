import Troupe.Proofs.World.Session

/-!
# Relations that computations keep

To prove that whatever a tool or a pass does is of a certain kind, it is enough to look at what
can be done in one go: writing, counting a tool call, noting an ask, remembering, posting and
pumping.  `Run.Keeps` says that a computation leads to a state that is related in one way to the
first if it returns, and in another if it halts; a `World.Frame` is a pair of relations for
which this is handed on from part to part.
-/

namespace Troupe

/-- The end of a computation is related to a state before it: by `R` if it has returned, and by
`F` if it has halted. -/
def World.Reaches {α : Type} (R F : World → World → Prop) (world : World) :
    EStateM.Result Halt World α → Prop
  | .ok _ after => R world after
  | .error _ after => F world after

/-- The end of a computation is related to its start. -/
def Run.Keeps {α : Type} (R F : World → World → Prop) (run : Run α) (world : World) : Prop :=
  world.Reaches R F (run world)

/-- Relations that are handed on from one part of a computation to the next, and that hold of
what passes and tools do in one go. -/
structure World.Frame (R F : World → World → Prop) : Prop where
  /-- Nothing has happened. -/
  refl : ∀ world, R world world
  /-- One part returns after the other. -/
  trans : ∀ {before middle after}, R before middle → R middle after → R before after
  /-- One part returns, the next halts. -/
  halts : ∀ {before middle after}, R before middle → F middle after → F before after
  /-- A halt where nothing has happened. -/
  halt : ∀ world, F world world
  /-- A store operation. -/
  write : ∀ (world : World) op, R world (world.write op).2
  /-- A tool call is counted. -/
  tools : ∀ (world : World) tools, R world { world with tools }
  /-- An ask is noted. -/
  ask : ∀ (world : World) asker target event, R world (world.registerAsk asker target event).2

/-- Relations that also hold of what is done around the turns of actors. -/
structure World.Regime (R F : World → World → Prop) : Prop extends World.Frame R F where
  /-- Something changes besides settings, the store, the running actors and what is noted. -/
  aside : ∀ {before after : World}, after.config = before.config → after.store = before.store →
    after.running = before.running → after.journal = before.journal → R before after
  /-- A pump is halted. -/
  unpump : ∀ {before after : World}, F before after → F before { after with pumping := false }

/-- What an engine does for passes and tools keeps two relations, if the messages that are posted
are of a certain kind. -/
structure Engine.KeepsFor (engine : Engine) (may : Message → Prop) (R F : World → World → Prop) :
    Prop where
  /-- Posting a message. -/
  post : ∀ target message world, may message → Run.Keeps R F (engine.post target message) world
  /-- Pumping. -/
  pump : ∀ world, Run.Keeps R F engine.pump world
  /-- What is not sent automatically is of the kind. -/
  plain : ∀ message : Message, message.automatic = false → may message

/-- What an engine does for passes and tools keeps two relations. -/
abbrev Engine.Keeps (engine : Engine) (R F : World → World → Prop) : Prop :=
  engine.KeepsFor (fun _ => True) R F

namespace ToolRegistry

/-- Counting a call leaves the tools alone, and the code that is to be run is that of a tool. -/
lemma beginCall_tools (registry : ToolRegistry) (name : String) (payload : Json) :
    (registry.beginCall name payload).2.tools = registry.tools ∧
      ∀ code, (registry.beginCall name payload).1 = .ok code →
        ∃ tool, registry.tools.find? name = some tool ∧ tool.code = code := by
  unfold beginCall
  split
  · exact ⟨rfl, fun _ admitted => by cases admitted⟩
  · rename_i tool found
    dsimp only
    split
    · refine ⟨rfl, fun code admitted => ?_⟩
      cases admitted
      exact ⟨tool, found, rfl⟩
    · exact ⟨rfl, fun _ admitted => by cases admitted⟩

lemma endCall_tools (registry : ToolRegistry) (result : Except ToolError Json) :
    (registry.endCall result).tools = registry.tools := by
  cases result <;> rfl

end ToolRegistry

section Parts

variable {α β : Type} {R F : World → World → Prop} {world after : World}

namespace Run.Keeps

lemma ok {run : Run α} {result : α} (keeps : Run.Keeps R F run world)
    (ran : run world = .ok result after) : R world after := by
  rwa [Run.Keeps, ran] at keeps

lemma error {run : Run α} {halt : Halt} (keeps : Run.Keeps R F run world)
    (ran : run world = .error halt after) : F world after := by
  rwa [Run.Keeps, ran] at keeps

lemma pure (frame : World.Frame R F) (result : α) (world : World) :
    Run.Keeps R F (Pure.pure result : Run α) world :=
  frame.refl world

lemma throw (frame : World.Frame R F) (halt : Halt) (world : World) :
    Run.Keeps R F (throw halt : Run α) world :=
  frame.halt world

/-- What follows a computation starts where the computation ends. -/
lemma bind (frame : World.Frame R F) {first : Run α} {next : α → Run β}
    (keeps : Run.Keeps R F first world)
    (goesOn : ∀ result middle, first world = .ok result middle →
      Run.Keeps R F (next result) middle) : Run.Keeps R F (first >>= next) world := by
  cases ran : first world with
  | ok result middle =>
    have reached := keeps.ok ran
    have rest := goesOn result middle ran
    rw [Run.Keeps, Run.bind_of_ok ran]
    rw [Run.Keeps] at rest
    cases ended : next result middle <;> rw [ended] at rest
    · exact frame.trans reached rest
    · exact frame.halts reached rest
  | error halt middle =>
    rw [Run.Keeps, Run.bind_of_error ran]
    exact keeps.error ran

lemma get {next : World → Run α} (keeps : Run.Keeps R F (next world) world) :
    Run.Keeps R F (get >>= next) world :=
  keeps

lemma modifyGet {change : World → α × World} (changes : R world (change world).2) :
    Run.Keeps R F (modifyGet change : Run α) world :=
  changes

lemma modify {change : World → World} (changes : R world (change world)) :
    Run.Keeps R F (modify change : Run Unit) world :=
  changes

end Run.Keeps

namespace Engine

variable {engine : Engine} {may : Message → Prop}

/-- Posting a message, spelt out: its target is started if it is not running. -/
lemma post_eq (engine : Engine) (target : Id) (message : Message) (world : World) :
    engine.post target message world =
      match world.post target message with
      | (.error error, after) => .ok (.error error) after
      | (.ok id, after) =>
        if world.running.contains target then .ok (.ok id) after
        else match engine.spawn target after with
          | .ok _ after => .ok (.ok id) after
          | .error halt after => .error halt after := by
  rw [Engine.post, Run.get_bind, Run.modifyGet_bind]
  rcases world.post target message with ⟨_ | id, after⟩
  · rfl
  · dsimp only
    by_cases runs : world.running.contains target = true
    · rw [if_pos runs, runs]
      rfl
    · rw [if_neg runs, Bool.eq_false_iff.2 runs]
      simp only [Bool.not_false, if_true, bind, EStateM.bind]
      cases engine.spawn target after <;> rfl

lemma deliver_keeps (frame : World.Frame R F) (keeps : engine.KeepsFor may R F) (target : Id)
    {message : Message} (allowed : may message) (world : World) :
    Run.Keeps R F (engine.deliver target message) world := by
  refine .bind frame (keeps.post target message world allowed) fun result middle _ => ?_
  cases result with
  | error error => exact .pure frame _ _
  | ok id => exact .bind frame (keeps.pump middle) fun _ _ _ => .pure frame _ _

/-- A script keeps what posting and pumping keep. -/
theorem runScript_keeps (frame : World.Frame R F) (keeps : engine.KeepsFor may R F)
    (script : Script α) (world : World) : Run.Keeps R F (engine.runScript script) world := by
  induction script generalizing world with
  | done result => exact .pure frame _ _
  | panic => exact .throw frame _ _
  | read id next ih => exact ih _ world
  | execute op next ih =>
    exact .bind frame (.modifyGet (frame.write world op)) fun result middle _ => ih result middle
  | deliver target message next ih =>
    have plain : may message.plain := keeps.plain _ rfl
    exact .bind frame (deliver_keeps frame keeps target plain world) fun result middle _ =>
      ih result middle
  | pump next ih => exact .bind frame (keeps.pump world) fun handled middle _ => ih handled middle

lemma callTool_keeps (frame : World.Frame R F) (keeps : engine.KeepsFor may R F) (name : String)
    (view : ActorView) (payload : Json) (world : World) :
    Run.Keeps R F (engine.callTool name view payload) world := by
  refine .bind frame (.modifyGet (frame.tools world _)) fun admitted middle _ => ?_
  cases admitted with
  | error cause => exact .pure frame _ _
  | ok code =>
    refine .bind frame (runScript_keeps frame keeps (code view payload) middle) fun _ last _ => ?_
    exact .bind frame (.modify (frame.tools last _)) fun _ _ _ => .pure frame _ _

lemma invoke_keeps (frame : World.Frame R F) (keeps : engine.KeepsFor may R F) (target : Id)
    (payload : Json) (world : World) : Run.Keeps R F (engine.invoke target payload) world := by
  refine .get ?_
  dsimp only
  split
  · exact .pure frame _ _
  · split
    · exact .pure frame _ _
    · exact .bind frame (callTool_keeps frame keeps _ _ _ world) fun _ _ _ => .pure frame _ _

/-- A pass that goes on with another runs as both do, one after the other. -/
theorem runPass_then (actor : Id) (pass : Pass α) (next : α → Pass β) :
    engine.runPass actor (pass >>= next) =
      engine.runPass actor pass >>= fun answer => engine.runPass actor (next answer) := by
  change engine.runPass actor (pass.bind next) = _
  induction pass with
  | done result => rfl
  | remember memory rest ih => simp only [Pass.bind, runPass, ih, bind_assoc]
  | _ => rename_i ih; simp only [Pass.bind, runPass, ih, bind_assoc]

/-- A pass keeps what posting and pumping keep, if remembering keeps it too. -/
theorem runPass_keeps (frame : World.Frame R F) (keeps : engine.Keeps R F) {actor : Id}
    (remember : ∀ (world : World) memory, R world (world.remember actor memory)) (pass : Pass α)
    (world : World) : Run.Keeps R F (engine.runPass actor pass) world := by
  induction pass generalizing world with
  | done result => exact .pure frame _ _
  | read id next ih => exact ih _ world
  | execute op next ih =>
    exact .bind frame (.modifyGet (frame.write world op)) fun result middle _ => ih result middle
  | callTool name view payload next ih =>
    exact .bind frame (callTool_keeps frame keeps name view payload world) fun result middle _ =>
      ih result middle
  | deliver target message next ih =>
    exact .bind frame (keeps.post target message world trivial) fun result middle _ => ih _ middle
  | interfaceOf target next ih => exact ih _ world
  | registerAsk asker target event next ih =>
    exact .bind frame (.modifyGet (frame.ask world asker target event)) fun result middle _ =>
      ih result middle
  | invoke target payload next ih =>
    exact .bind frame (invoke_keeps frame keeps target payload world) fun result middle _ =>
      ih result middle
  | remember memory next ih =>
    exact .bind frame (.modify (remember world memory)) fun _ middle _ => ih middle

/-- Applying a mutation keeps what posting keeps. -/
lemma applyMutation_keeps (frame : World.Frame R F) (keeps : engine.Keeps R F) (actor : Id)
    (entry : Entry) (payload : Json) (world : World) :
    Run.Keeps R F (engine.applyMutation actor entry payload) world := by
  unfold applyMutation
  extract_lets report
  have report_keeps : ∀ outcome middle, Run.Keeps R F (report outcome) middle := by
    intro outcome middle
    unfold report
    split
    · exact .bind frame (keeps.post _ _ middle trivial) fun _ _ _ => .pure frame _ _
    · exact .pure frame _ _
  split
  · exact report_keeps _ world
  · rename_i op _
    exact .bind frame (.modifyGet (frame.write world op)) fun outcome middle _ =>
      report_keeps _ middle

/-! ## Serving the queue -/

/-- Posting a message keeps what the post itself and the start of its target keep. -/
lemma post_keeps (frame : World.Frame R F) {target : Id} {message : Message}
    (posts : R world (world.post target message).2)
    (starts : ∀ world, Run.Keeps R F (engine.spawn target) world) :
    Run.Keeps R F (engine.post target message) world := by
  refine .get (.bind frame (.modifyGet posts) fun result middle _ => ?_)
  cases result with
  | error error => exact .pure frame _ _
  | ok id =>
    dsimp only
    split
    · exact .bind frame (starts middle) fun _ _ _ => .pure frame _ _
    · exact .pure frame _ _

lemma rerender_keeps (regime : World.Regime R F) (keeps : engine.KeepsFor may R F) (id : Id)
    (world : World) : Run.Keeps R F (engine.rerender id) world := by
  refine .get ?_
  split
  · exact .pure regime.toFrame _ _
  · rename_i script _
    have noted : Run.Keeps R F (set { world with
        rerenders := world.rerenders ++ [(id, world.currentState? id)] } : Run PUnit) world :=
      regime.aside rfl rfl rfl rfl
    exact .bind regime.toFrame noted fun _ middle _ =>
      runScript_keeps regime.toFrame keeps (script id) middle

section Serving

variable (regime : World.Regime R F) (keeps : engine.KeepsFor may R F)
  (serves : ∀ id world, Run.Keeps R F (engine.handleNext id) world)

include regime keeps serves

lemma drain_keeps (id : Id) (world : World) : Run.Keeps R F (engine.drain id) world := by
  have frame := regime.toFrame
  refine .bind frame (serves id world) fun rerender middle _ => ?_
  cases rerender with
  | none => exact .pure frame _ _
  | some rerender =>
    dsimp only
    split
    · exact .bind frame (rerender_keeps regime keeps id middle) fun _ _ _ => .pure frame _ _
    · exact .pure frame _ _

lemma drainAll_keeps (rounds handled : Nat) (world : World) :
    Run.Keeps R F (engine.drainAll rounds handled) world := by
  have frame := regime.toFrame
  induction rounds generalizing handled world with
  | zero => exact .throw frame _ _
  | succ rounds ih =>
    refine .get ?_
    split
    · exact .pure frame _ _
    · rename_i id ready _
      have popped : Run.Keeps R F (set { world with ready } : Run PUnit) world :=
        regime.aside rfl rfl rfl rfl
      exact .bind frame popped fun _ middle _ =>
        .bind frame (drain_keeps regime keeps serves id middle) fun did last _ => ih _ last

/-- A pump keeps what its turns keep. -/
lemma pumpWith_keeps (rounds : Nat) (world : World) :
    Run.Keeps R F (engine.pumpWith rounds) world := by
  have begins : R world { world with pumping := true } := regime.aside rfl rfl rfl rfl
  have drains := drainAll_keeps regime keeps serves rounds 0 { world with pumping := true }
  rw [Run.Keeps, pumpWith]
  split
  · exact regime.refl _
  · cases drained : engine.drainAll rounds 0 { world with pumping := true } with
    | ok handled last =>
      exact regime.trans begins (regime.trans (drains.ok drained) (regime.aside rfl rfl rfl rfl))
    | error halt last => exact regime.unpump (regime.halts begins (drains.error drained))

end Serving

end Engine

end Parts

end Troupe
