import Mathlib.Tactic.Lemma
import Troupe.Proofs.Pass.Requests

/-!
# What a pass stages

A pass reads the context once and stages patches on a working copy: whatever actions run and
wherever it stops, its working copy is what it read with every staged patch merged in, one after
the other (`Activation.Later`).  `Pass.Ensures` says that whatever the answers are, every result
of a pass satisfies a condition, and `Pass.ensures_bind` makes this a property that is proved
part by part.

## Main results

* `Activation.run_later`: running actions only stages patches;
* `Behavior.work_cases`: the work of a pass begins with reading the context, and comes to a
  state after that if the behavior handles the event, else to nothing.
-/

namespace Troupe

namespace Pass

variable {α β : Type} {Q : α → Prop} {R : β → Prop}

/-- Every result that a pass can come to satisfies a condition. -/
def Ensures (Q : α → Prop) : Pass α → Prop
  | .done result => Q result
  | .read _ next => ∀ answer, (next answer).Ensures Q
  | .execute _ next => ∀ answer, (next answer).Ensures Q
  | .callTool _ _ _ next => ∀ answer, (next answer).Ensures Q
  | .deliver _ _ next => ∀ answer, (next answer).Ensures Q
  | .interfaceOf _ next => ∀ answer, (next answer).Ensures Q
  | .registerAsk _ _ _ next => ∀ answer, (next answer).Ensures Q
  | .invoke _ _ next => ∀ answer, (next answer).Ensures Q
  | .remember _ next => next.Ensures Q

/-- What a pass goes on with starts from a result that it ensures. -/
theorem ensures_bind {p : Pass α} {f : α → Pass β} (first : p.Ensures Q)
    (after : ∀ result, Q result → (f result).Ensures R) : (p >>= f).Ensures R := by
  change (p.bind f).Ensures R
  induction p with
  | done result => exact after result first
  | remember memory next ih => exact ih first
  | _ => rename_i ih; exact fun answer => ih answer (first answer)

lemma ensures_mono {Q' : α → Prop} {p : Pass α} (ensures : p.Ensures Q)
    (implies : ∀ result, Q result → Q' result) : p.Ensures Q' := by
  induction p with
  | done result => exact implies result ensures
  | remember memory next ih => exact ih ensures
  | _ => rename_i ih; exact fun answer => ih answer (ensures answer)

/-- A pass whose results do not matter. -/
lemma ensures_true (p : Pass α) : p.Ensures fun _ => True := by
  induction p with
  | done => trivial
  | remember memory next ih => exact ih
  | _ => rename_i ih; exact fun answer => ih answer

/-- What a pass goes on with whatever its results are. -/
lemma ensures_after (p : Pass α) {f : α → Pass β} (after : ∀ result, (f result).Ensures R) :
    (p >>= f).Ensures R :=
  ensures_bind p.ensures_true fun result _ => after result

/-- What a pass goes on with matters only for the results that it ensures. -/
lemma bind_congr {p : Pass α} {f g : α → Pass β} (ensures : p.Ensures Q)
    (same : ∀ result, Q result → f result = g result) : p >>= f = p >>= g := by
  change p.bind f = p.bind g
  induction p with
  | done result => exact same result ensures
  | remember memory next ih => exact congrArg (remember memory) (ih ensures)
  | _ =>
    rename_i ih
    simp only [bind]
    congr 1
    exact funext fun answer => ih answer (ensures answer)

end Pass

namespace Activation

open Pass

/-- A state later in the same pass: the same context was read, and patches were staged. -/
structure Later (before after : Activation) : Prop where
  /-- The context as it was read stays, -/
  base : after.base = before.base
  /-- and the working copy has some more patches merged in, all of them objects. -/
  staged : ∃ patches : List Json, (∀ patch ∈ patches, patch.isObject = true) ∧
    after.working = patches.foldl Json.merge before.working

namespace Later

variable {before middle after : Activation}

/-- Nothing was staged. -/
lemma of_eq (base : after.base = before.base) (working : after.working = before.working) :
    before.Later after := ⟨base, [], by simp, working⟩

protected lemma refl (activation : Activation) : activation.Later activation := of_eq rfl rfl

protected lemma trans (first : before.Later middle) (second : middle.Later after) :
    before.Later after := by
  obtain ⟨patches₁, objects₁, staged₁⟩ := first.staged
  obtain ⟨patches₂, objects₂, staged₂⟩ := second.staged
  refine ⟨second.base.trans first.base, patches₁ ++ patches₂, fun patch mem => ?_, ?_⟩
  · exact (List.mem_append.1 mem).elim (objects₁ patch) (objects₂ patch)
  · rw [staged₂, staged₁, List.foldl_append]

lemma stage (later : before.Later after) (patch : List (String × Json)) :
    before.Later (after.stage (.obj patch)) :=
  later.trans ⟨rfl, [.obj patch], by simp [Json.isObject], rfl⟩

end Later

/-- What a pass over a context has staged so far: these patches, all of them objects. -/
structure Staged (context : Option Json) (patches : List Json) (activation : Activation) : Prop where
  /-- The context was read, -/
  base : activation.base = (ofContext context).base
  /-- every patch is an object, -/
  objects : ∀ patch ∈ patches, patch.isObject = true
  /-- and the working copy has them all merged in, one after the other. -/
  working : activation.working = patches.foldl Json.merge activation.base

namespace Staged

variable {context : Option Json} {patches : List Json} {before after : Activation}

/-- At first nothing is staged. -/
lemma ofContext (context : Option Json) : (ofContext context).Staged context [] := by
  refine ⟨rfl, by simp, ?_⟩
  unfold Activation.ofContext
  split <;> rfl

lemma stage (staged : before.Staged context patches) (patch : List (String × Json)) :
    (before.stage (.obj patch)).Staged context (patches ++ [.obj patch]) := by
  refine ⟨staged.base, fun other mem => ?_, ?_⟩
  · rcases List.mem_append.1 mem with mem | mem
    · exact staged.objects other mem
    · rw [List.mem_singleton.1 mem]
      rfl
  · change before.working.merge (.obj patch) = _
    rw [staged.working, List.foldl_append]
    rfl

/-- Later in the pass more is staged. -/
lemma later (staged : before.Staged context patches) (later : before.Later after) :
    ∃ more, after.Staged context (patches ++ more) := by
  obtain ⟨base, more, objects, working⟩ := later
  refine ⟨more, base.trans staged.base, fun patch mem => ?_, ?_⟩
  · exact (List.mem_append.1 mem).elim (staged.objects patch) (objects patch)
  · rw [working, staged.working, base, List.foldl_append]

end Staged

/-- A state with the same context, as it was read and as it is staged, whose guards are told of
the same state. -/
structure Alike (before after : Activation) : Prop where
  /-- The context as it was read, -/
  base : after.base = before.base
  /-- the working copy, -/
  working : after.working = before.working
  /-- and the name that guards are told stay. -/
  state : after.state = before.state

protected lemma Alike.later {before after : Activation} (alike : before.Alike after) :
    before.Later after :=
  .of_eq alike.base alike.working

/-- A state that has heard of a result, and is the same otherwise. -/
def Hears (before after : Activation) : Prop :=
  ∃ result invoked, after = { before with result, invoked }

protected lemma Hears.refl (activation : Activation) : activation.Hears activation := ⟨_, _, rfl⟩

lemma Hears.alike {before after : Activation} (hears : before.Hears after) : before.Alike after := by
  obtain ⟨result, invoked, rfl⟩ := hears
  exact ⟨rfl, rfl, rfl⟩

/-! ## Actions -/

/-- An action that does not fail comes to a state that satisfies a condition. -/
def Proceeds (P : Activation → Prop) (result : Except ActionError Step) : Prop :=
  ∀ step, result = .ok step → P step.2

section Actions

variable {P P' : Activation → Prop}

lemma proceeds_error (error : ActionError) : Proceeds P (.error error) :=
  fun _ failed => nomatch failed

lemma proceeds_ok {step : Step} (holds : P step.2) : Proceeds P (.ok step) :=
  fun _ same => Except.ok.inj same ▸ holds

lemma Proceeds.mono {result : Except ActionError Step} (proceeds : Proceeds P result)
    (implies : ∀ activation, P activation → P' activation) : Proceeds P' result :=
  fun step done => implies _ (proceeds step done)

variable (activation : Activation) (occasion : Occasion)

/-- A patch of the context is staged as the object that it resolves to. -/
lemma runCtx_eq (event : Event) (template : Json) :
    (∃ error, activation.runCtx event template = .error error) ∨
    ∃ patch, activation.resolve event template = .ok (.obj patch) ∧
      activation.runCtx event template = .ok (.proceed, activation.stage (.obj patch)) := by
  unfold runCtx
  cases resolved : activation.resolve event template with
  | error error => exact .inl ⟨error, rfl⟩
  | ok value =>
    cases value with
    | obj patch => exact .inr ⟨patch, rfl, rfl⟩
    | _ => exact .inl ⟨_, rfl⟩

lemma runOp_alike (event : Event) (op : OpAction) :
    (activation.runOp event op).Ensures (Proceeds activation.Alike) := by
  unfold runOp
  split
  · exact proceeds_error _
  · intro answer
    cases answer with
    | ok result => exact proceeds_ok ⟨rfl, rfl, rfl⟩
    | error cause => exact proceeds_error _

lemma runTell_hears (send : SendAction) :
    (activation.runTell occasion send).Ensures (Proceeds activation.Hears) := by
  unfold runTell
  split
  · exact proceeds_error _
  · intro answer
    cases answer with
    | ok id => exact proceeds_ok (.refl _)
    | error error => exact proceeds_error _

lemma runAsk_hears (send : SendAction) :
    (activation.runAsk occasion send).Ensures (Proceeds activation.Hears) := by
  unfold runAsk
  split
  · exact proceeds_error _
  · intro answer
    cases answer with
    | error error => exact proceeds_error _
    | ok accepted =>
      dsimp only
      split
      · intro correlation delivered
        cases delivered with
        | ok id => exact proceeds_ok (.refl _)
        | error error => exact proceeds_error _
      · exact proceeds_error _

lemma runFunction_hears (template : Option Json) :
    (activation.runFunction occasion template).Ensures (Proceeds activation.Hears) := by
  unfold runFunction
  split
  · exact proceeds_error _
  · split
    · exact proceeds_error _
    · intro answer
      cases answer with
      | error cause => exact proceeds_error _
      | ok raw => exact ensures_after _ fun _ => proceeds_ok ⟨_, _, rfl⟩

lemma runInvoke_hears (event : Event) (target : Id) (template : Option Json) :
    (activation.runInvoke event target template).Ensures (Proceeds activation.Hears) := by
  unfold runInvoke
  split
  · exact proceeds_error _
  · intro answer
    cases answer with
    | error error => exact proceeds_error _
    | ok raw => exact proceeds_ok ⟨_, _, rfl⟩

/-- An action that neither patches the context nor writes to the store comes to a result at
most. -/
lemma perform_hears {action : Action} (patches : ∀ patch, action ≠ .ctx patch)
    (writes : ∀ op, action ≠ .op op) :
    (activation.perform occasion action).Ensures (Proceeds activation.Hears) := by
  cases action with
  | ctx patch => exact absurd rfl (patches patch)
  | op op => exact absurd rfl (writes op)
  | tell send => exact activation.runTell_hears occasion send
  | ask send => exact activation.runAsk_hears occasion send
  | function payload => exact activation.runFunction_hears occasion payload
  | invoke target payload => exact activation.runInvoke_hears occasion.event target payload
  | guard guard => exact proceeds_ok (.refl _)
  | named name => exact proceeds_ok (.refl _)

/-- Only a patch of the context changes it. -/
lemma perform_alike {action : Action} (other : ∀ patch, action ≠ .ctx patch) :
    (activation.perform occasion action).Ensures (Proceeds activation.Alike) := by
  cases action with
  | op op => exact activation.runOp_alike occasion.event op
  | _ =>
    exact ensures_mono (activation.perform_hears occasion other (by simp)) fun _ proceeds =>
      proceeds.mono fun _ => Hears.alike

/-- An action that does not fail only stages patches. -/
lemma perform_later (action : Action) :
    (activation.perform occasion action).Ensures (Proceeds activation.Later) := by
  by_cases patches : ∃ patch, action = .ctx patch
  · obtain ⟨patch, rfl⟩ := patches
    change Proceeds _ (activation.runCtx occasion.event patch)
    rcases activation.runCtx_eq occasion.event patch with ⟨error, failed⟩ | ⟨fields, -, done⟩
    · rw [failed]
      exact proceeds_error _
    · rw [done]
      exact proceeds_ok ((Later.refl _).stage _)
  · exact ensures_mono (activation.perform_alike occasion fun patch same => patches ⟨patch, same⟩)
      fun _ proceeds => proceeds.mono fun _ => Alike.later

end Actions

/-! ## Lists of actions -/

/-- A property of states that some actions keep, and those in the lists that they refer to. -/
structure Keeps (occasion : Occasion) (allowed : Action → Prop) (P : Activation → Prop) : Prop where
  /-- Counting an action keeps it, -/
  counted : ∀ {activation}, P activation →
    P { activation with actionsRun := activation.actionsRun + 1 }
  /-- and so does any of the actions. -/
  perform : ∀ {activation action}, allowed action → P activation →
    (activation.perform occasion action).Ensures (Proceeds P)
  /-- They refer to lists of such actions only. -/
  find : ∀ {name list}, allowed (.named name) → occasion.named.find? name = some list →
    ∀ action ∈ list, allowed action

namespace Keeps

variable {occasion : Occasion} {allowed : Action → Prop} {P : Activation → Prop}
  {activation : Activation}

/-- What actions keep, running lists of them keeps. -/
lemma builds (keeps : Keeps occasion allowed P) :
    Builds occasion allowed fun activation pass =>
      P activation → pass.Ensures fun step => P step.2 where
  done _ holds := holds
  bind first rest _ holds := ensures_bind (first holds) rest
  failed _ _ _ holds := ensures_after _ fun _ => holds
  action activation action may holds := by
    refine ensures_bind (keeps.perform may (keeps.counted holds)) fun result proceeds => ?_
    cases result with
    | ok step => exact proceeds step rfl
    | error error => exact ensures_after _ fun _ => keeps.counted holds
  find := keeps.find

/-- What the actions of a list keep, running the list keeps, wherever it stops. -/
theorem run (keeps : Keeps occasion allowed P) {actions : List Action}
    (all : ∀ action ∈ actions, allowed action) (holds : P activation) :
    (activation.run occasion actions).Ensures fun step => P step.2 :=
  keeps.builds.run all activation holds

end Keeps

/-- Whatever actions run and wherever they stop, all they change of the context is staged. -/
theorem run_later (activation : Activation) (occasion : Occasion) (actions : List Action) :
    (activation.run occasion actions).Ensures fun step => activation.Later step.2 := by
  have keeps : Keeps occasion (fun _ => True) activation.Later := {
    counted := fun later => later.trans (.of_eq rfl rfl)
    perform := fun _ later => ensures_mono (perform_later _ occasion _)
      fun _ proceeds => proceeds.mono fun _ => later.trans
    find := fun _ _ _ _ => trivial }
  exact keeps.run (fun _ _ => trivial) (.refl _)

end Activation

/-! ## Machines -/

namespace Machine

open Pass

variable (definition : MachineDefinition) (occasion : Occasion) (activation : Activation)

lemma enter_later (state : String) :
    (enter definition occasion state activation).Ensures activation.Later := by
  unfold enter
  split
  · exact .refl _
  · have fresh : activation.Later { activation with invoked := none } := .of_eq rfl rfl
    refine ensures_bind (Activation.run_later _ occasion _) fun step later => ?_
    obtain ⟨flow, last⟩ := step
    dsimp only
    split
    · split
      · exact ensures_after _ fun _ => fresh.trans (later.trans (.of_eq rfl rfl))
      · exact fresh.trans (later.trans (.of_eq rfl rfl))
    · exact fresh.trans later

lemma leave_later (node : StateNode) (candidate : Candidate) :
    (leave occasion node candidate activation).Ensures fun step => activation.Later step.2 := by
  refine ensures_bind (Activation.run_later _ occasion _) fun step later => ?_
  obtain ⟨flow, last⟩ := step
  cases flow with
  | proceed => exact ensures_mono (Activation.run_later _ occasion _) fun _ => later.trans
  | stop => exact later

/-- The state that a transition leads to is staged before its entry actions run. -/
lemma arrive_later (source : String) (candidate : Candidate) (flow : Flow) :
    (arrive definition occasion source candidate flow activation).Ensures fun last =>
      (activation.stageState candidate.target).Later last := by
  have staged : (activation.stageState candidate.target).Later
      ({ activation with state := some candidate.target }.stageState candidate.target) :=
    .of_eq rfl rfl
  unfold arrive
  dsimp only
  split
  · exact ensures_mono (enter_later definition occasion _ _) fun _ => staged.trans
  · exact staged

/-- A transition stages the state that it leads to. -/
lemma take_later (limit : Nat) (suppressed : List String) (actor : Actor) (event : Event)
    (memory : Memory) (source : String) (node : StateNode) (candidate : Candidate) :
    (take definition limit suppressed actor event memory source node candidate activation).Ensures
      fun (last, dispatch) => dispatch.handled = true ∧ ∃ middle, activation.Later middle ∧
        (middle.stageState candidate.target).Later last := by
  refine ensures_after _ fun _ => ?_
  refine ensures_bind (leave_later _ _ node candidate) fun step left => ?_
  obtain ⟨flow, middle⟩ := step
  refine ensures_after _ fun _ => ?_
  refine ensures_bind (arrive_later definition _ middle source candidate flow) fun last arrived => ?_
  exact ensures_after _ fun _ => ⟨rfl, middle, left, arrived⟩

end Machine

/-! ## Behaviors -/

namespace Behavior

open Pass

variable (behavior : Behavior) (actor : Actor) (memory : Memory) (event : Event)

/-- The transition that a machine takes for an event over a context: the first candidate that
qualifies.  A process takes none. -/
def transition? (context : Option Json) : Option Candidate :=
  match behavior with
  | .machine definition _ _ => do
    let (state, _, candidates) ← Machine.candidates? definition memory event
    let activation := Activation.ofContext context
    candidates.find? (Machine.qualifies { activation with state := some state } event)
  | .process _ _ => none

/-- Whether a behavior has anything to do for an event: a transition, or a handler. -/
def handles (context : Option Json) : Bool :=
  match behavior with
  | .machine .. => (behavior.transition? memory event context).isSome
  | .process definition _ => definition.handlers.contains event.name

/-- What the work of a pass over a context comes to: if the behavior handles the event, to a
state with patches staged, that of the new state among them if there is a transition; else to
nothing. -/
def Works (context : Option Json) : Option (Activation × Dispatch) → Prop
  | none => behavior.handles memory event context = false
  | some (last, dispatch) => behavior.handles memory event context = true ∧
    dispatch.handled = true ∧ ∃ patches, last.Staged context patches ∧
      ∀ transition, behavior.transition? memory event context = some transition →
        .obj [("state", .str transition.target)] ∈ patches

/-- The work of a pass is to do nothing, or it begins with reading the context. -/
theorem work_cases :
    (behavior.work actor memory event = .done none ∧
      ∀ context, behavior.handles memory event context = false) ∨
    ∃ next, behavior.work actor memory event = .read actor.config.context next ∧
      ∀ context, (next context).Ensures (behavior.Works memory event context) := by
  cases behavior with
  | machine definition limit suppressed =>
    cases entered : Machine.candidates? definition memory event with
    | none =>
      refine .inl ⟨?_, fun context => ?_⟩
      · rw [work, Machine.work, entered]
        rfl
      · rw [handles, transition?, entered]
        rfl
    | some found =>
      obtain ⟨state, node, candidates⟩ := found
      refine .inr ⟨_, by rw [work, Machine.work, entered]; rfl, fun context => ?_⟩
      -- the guards of the candidates see the context as it was read, with the state beside it
      have guards : (Behavior.machine definition limit suppressed).transition? memory event context =
          candidates.find? (Machine.qualifies
            { Activation.ofContext context with state := some state } event) := by
        rw [transition?, entered]
        rfl
      dsimp only [Pass.bind]
      split
      · rename_i none
        change Option.isSome _ = false
        rw [guards, none]
        rfl
      · rename_i candidate found
        refine ensures_bind (Machine.take_later _ _ _ _ _ _ _ _ _ _) fun outcome taken => ?_
        obtain ⟨last, dispatch⟩ := outcome
        obtain ⟨handled, middle, left, arrived⟩ := taken
        -- the state that the transition leads to is staged after its own actions and before
        -- the entry actions
        have begun : (Activation.ofContext context).Later
            { Activation.ofContext context with state := some state } := .of_eq rfl rfl
        obtain ⟨early, leaving⟩ := (Activation.Staged.ofContext context).later (begun.trans left)
        obtain ⟨late, staged⟩ := (leaving.stage _).later arrived
        refine ⟨by rw [handles, guards, found]; rfl, handled, _, staged, fun transition same => ?_⟩
        rw [guards, found] at same
        cases same
        simp
  | process definition suppressed =>
    cases found : definition.handlers.find? event.name with
    | none =>
      refine .inl ⟨?_, fun context => ?_⟩
      · rw [work, Process.work, found]
        rfl
      · rw [handles, Table.contains, found]
        rfl
    | some actions =>
      refine .inr ⟨_, by rw [work, Process.work, found]; rfl, fun context => ?_⟩
      change ((Activation.ofContext context).run ⟨actor, definition.named, event⟩ actions >>=
        _).Ensures _
      refine ensures_bind (Activation.run_later _ _ actions) fun step later => ?_
      obtain ⟨flow, last⟩ := step
      obtain ⟨patches, staged⟩ := (Activation.Staged.ofContext context).later later
      refine ensures_after _ fun _ => ⟨?_, rfl, _, staged, ?_⟩
      · rw [handles, Table.contains, found]
        rfl
      -- a process has no transitions
      · intro transition none
        cases none

end Behavior

end Troupe
