import Troupe.Proofs.Behavior.CurrentState

/-!
# What a pass shows when it is broken off

A pass can be broken off where it calls upon others: at the call of a tool, at a delivery that
starts an actor, at an invocation.  What its behavior has remembered up to there stays.
`Pass.Shows` says what that may be, at each of these points and at the end.

A machine remembers its new state before the first action of a transition, and the transition before
the entry actions.  So wherever a transition is broken off, the machine shows the new state, and not
always the transition that led to it (`Machine.work_shows`).
-/

namespace Troupe

namespace Pass

variable {α β : Type} {P P' : Memory → Prop} {Q Q' : α → Memory → Prop} {R : β → Memory → Prop}
variable {memory : Memory}

/-- Wherever a pass may be broken off, it has remembered something that satisfies a condition; and
so do its result and what it remembers at its end. -/
def Shows (P : Memory → Prop) (Q : α → Memory → Prop) : Pass α → Memory → Prop
  | .done result, memory => Q result memory
  | .read _ next, memory => ∀ answer, (next answer).Shows P Q memory
  | .execute _ next, memory => ∀ answer, (next answer).Shows P Q memory
  | .callTool _ _ _ next, memory => P memory ∧ ∀ answer, (next answer).Shows P Q memory
  | .deliver _ _ next, memory => P memory ∧ ∀ answer, (next answer).Shows P Q memory
  | .interfaceOf _ next, memory => ∀ answer, (next answer).Shows P Q memory
  | .registerAsk _ _ _ next, memory => ∀ answer, (next answer).Shows P Q memory
  | .invoke _ _ next, memory => P memory ∧ ∀ answer, (next answer).Shows P Q memory
  | .remember memory next, _ => next.Shows P Q memory

/-- A pass that goes on with another shows what both show. -/
theorem shows_bind {p : Pass α} {f : α → Pass β} (first : p.Shows P Q memory)
    (after : ∀ result memory, Q result memory → (f result).Shows P R memory) :
    (p >>= f).Shows P R memory := by
  change (p.bind f).Shows P R memory
  induction p generalizing memory with
  | done result => exact after result memory first
  | remember _ next ih => exact ih first
  | callTool _ _ _ next ih => exact ⟨first.1, fun answer => ih answer (first.2 answer)⟩
  | deliver _ _ next ih => exact ⟨first.1, fun answer => ih answer (first.2 answer)⟩
  | invoke _ _ next ih => exact ⟨first.1, fun answer => ih answer (first.2 answer)⟩
  | _ => rename_i ih; exact fun answer => ih answer (first answer)

lemma Shows.mono {p : Pass α} (shows_ : p.Shows P Q memory)
    (breaks : ∀ memory, P memory → P' memory)
    (ends : ∀ result memory, Q result memory → Q' result memory) : p.Shows P' Q' memory := by
  induction p generalizing memory with
  | done result => exact ends result memory shows_
  | remember _ next ih => exact ih shows_
  | callTool _ _ _ next ih => exact ⟨breaks _ shows_.1, fun answer => ih answer (shows_.2 answer)⟩
  | deliver _ _ next ih => exact ⟨breaks _ shows_.1, fun answer => ih answer (shows_.2 answer)⟩
  | invoke _ _ next ih => exact ⟨breaks _ shows_.1, fun answer => ih answer (shows_.2 answer)⟩
  | _ => rename_i ih; exact fun answer => ih answer (shows_ answer)

/-- A pass that remembers nothing shows what was remembered before it. -/
lemma Only.shows {p : Pass α} (only : p.Only fun request => ∀ memory, request ≠ .remember memory)
    (before : P memory) : p.Shows P (fun _ after => after = memory) memory := by
  induction p with
  | done result => rfl
  | remember other next ih => exact absurd rfl (only.1 other)
  | callTool _ _ _ next ih => exact ⟨before, fun answer => ih answer (only.2 answer)⟩
  | deliver _ _ next ih => exact ⟨before, fun answer => ih answer (only.2 answer)⟩
  | invoke _ _ next ih => exact ⟨before, fun answer => ih answer (only.2 answer)⟩
  | _ => rename_i ih; exact fun answer => ih answer (only.2 answer)

end Pass

namespace Machine

open Pass

variable (definition : MachineDefinition) (limit : Nat) (suppressed : List String) (actor : Actor)
variable (event : Event) (memory : Memory)

/-- What a machine shows when a transition from a state is broken off: the new state already, and
the transition if its own actions had run. -/
def Torn (source : String) (candidate : Candidate) (torn : Memory) : Prop :=
  torn = { memory with state := some candidate.target } ∨
  torn = { memory with
    state := some candidate.target
    history := lastTransitions limit
      (memory.history ++ [⟨source, candidate.target, event.name⟩]) }

theorem take_shows (source : String) (node : StateNode) (candidate : Candidate)
    (activation : Activation) :
    (take definition limit suppressed actor event memory source node candidate activation).Shows
      (Torn limit event memory source candidate) (fun _ _ => True) memory := by
  let occasion := occasion definition actor event
  -- the new state is remembered first, then nothing until the transition is, and then nothing
  -- until the end
  refine shows_bind (Q := fun _ left => left = { memory with state := some candidate.target }) rfl
    fun _ left eq => ?_
  refine shows_bind ((leave_acts occasion node candidate activation).not_remember.shows (.inl eq))
    fun step middle same => ?_
  obtain ⟨flow, activation⟩ := step
  refine shows_bind (Q := fun _ entered => Torn limit event memory source candidate entered)
    (.inr rfl) fun _ entered torn => ?_
  refine shows_bind ((arrive_acts definition occasion source candidate flow
    activation).not_remember.shows torn) fun _ _ _ => ?_
  exact shows_bind (Q := fun _ _ => True) trivial fun _ _ _ => trivial

/-- The work of a machine's pass is to do nothing, or it begins with reading the context.  Wherever
it is broken off from there, the machine has taken the transition that it takes over that context,
and shows its new state. -/
theorem work_shows :
    work definition limit suppressed actor memory event = .done none ∨
    ∃ next, work definition limit suppressed actor memory event = .read actor.config.context next ∧
      ∀ context, (next context).Shows
        (fun torn => ∃ source candidate, memory.state = some source ∧
          (Behavior.machine definition limit suppressed).transition? memory event context =
            some candidate ∧ Torn limit event memory source candidate torn)
        (fun _ _ => True) memory := by
  cases entered : candidates? definition memory event with
  | none =>
    refine .inl ?_
    rw [work, entered]
    rfl
  | some found =>
    refine .inr ⟨_, by rw [work, entered]; rfl, fun context => ?_⟩
    have current := (candidates?_eq_some entered).1
    obtain ⟨source, node, candidates⟩ := found
    dsimp only [Pass.bind]
    split
    · trivial
    · rename_i candidate qualifies
      have taken : (Behavior.machine definition limit suppressed).transition? memory event context =
          some candidate := by
        rw [Behavior.transition?, entered]
        exact qualifies
      exact shows_bind ((take_shows definition limit suppressed actor event memory source node
        candidate _).mono (fun torn broken => ⟨source, candidate, current, taken, broken⟩)
        fun _ _ _ => trivial) fun _ _ _ => trivial

end Machine

end Troupe
