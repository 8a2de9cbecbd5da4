import Mathlib.Tactic.Lemma
import Troupe.Pass.Actions

/-!
# The blocks of a list of actions

Guards divide a list of actions into blocks: each gates the actions up to the next one.  A list can
be run in two parts, one after the other, where the second part begins with a guard, or where the
first part has none: then what the first part leaves behind is a state, and nothing needs to be
known of what was skipped in it.

## Main results

* `Activation.runWith_append_guard`, `Activation.runWith_append_block`: running a list in two parts;
* `Activation.runWith_skipped`: a block that is skipped does nothing.
-/

namespace Troupe

namespace Action

/-- Whether an action is a guard. -/
def isGuard : Action → Bool
  | .guard _ => true
  | _ => false

/-- No guard stands among these actions. -/
def IsBlock (actions : List Action) : Prop := ∀ action ∈ actions, action.isGuard = false

instance (actions : List Action) : Decidable (IsBlock actions) :=
  inferInstanceAs (Decidable (∀ action ∈ actions, action.isGuard = false))

end Action

namespace Activation

/-- Go on after a step, unless it stops. -/
def Step.andThen (next : Activation → Pass Step) : Step → Pass Step
  | (.proceed, activation) => next activation
  | (.stop, activation) => .done (.stop, activation)

/-- Going on after steps can be put together in either order. -/
lemma Step.andThen_assoc (next rest : Activation → Pass Step) (pass : Pass Step) :
    (pass >>= andThen next) >>= andThen rest =
      pass >>= andThen fun activation => next activation >>= andThen rest := by
  rw [bind_assoc]
  refine congrArg (pass >>= ·) (funext fun step => ?_)
  obtain ⟨flow, activation⟩ := step
  cases flow <;> rfl

variable {call : String → Activation → Pass Step} {occasion : Occasion} {activation : Activation}
variable {action : Action} {before block rest : List Action} {guard : Guard} {skipping : Bool}

/-- An action that is no guard is run, and then the rest of its block. -/
lemma runWith_cons (other : action.isGuard = false) :
    runWith call occasion (action :: rest) false activation =
      runOne call occasion action activation >>=
        Step.andThen (runWith call occasion rest false) := by
  cases action with
  | guard guard => cases other
  | _ =>
    refine congrArg (_ >>= ·) (funext fun step => ?_)
    obtain ⟨flow, next⟩ := step
    cases flow <;> rfl

/-- It is passed over in a block that is skipped. -/
lemma runWith_cons_skipping (other : action.isGuard = false) :
    runWith call occasion (action :: rest) true activation =
      runWith call occasion rest true activation := by
  cases action with
  | guard guard => cases other
  | _ => rfl

/-- At a guard it makes no difference what was skipped before. -/
lemma runWith_guard {holds : Bool} (decided : activation.holds occasion.event guard = .ok holds) :
    runWith call occasion (.guard guard :: rest) skipping activation =
      runWith call occasion rest (!holds) activation := by
  rw [runWith, decided]

lemma runWith_guard_undecided {error : ActionError}
    (undecided : activation.holds occasion.event guard = .error error) :
    runWith call occasion (.guard guard :: rest) skipping activation =
      activation.failed occasion error := by
  rw [runWith, undecided]

/-- Actions are run, and then others that begin with a guard. -/
theorem runWith_append_guard (guard : Guard) :
    runWith call occasion (before ++ .guard guard :: rest) skipping activation =
      runWith call occasion before skipping activation >>=
        Step.andThen (runWith call occasion (.guard guard :: rest) false) := by
  induction before generalizing skipping activation with
  | nil => rfl
  | cons action before ih =>
    rw [List.cons_append]
    cases action with
    | guard guard =>
      cases decided : activation.holds occasion.event guard with
      | ok holds => rw [runWith_guard decided, runWith_guard decided, ih]
      | error error =>
        rw [runWith_guard_undecided decided, runWith_guard_undecided decided]
        simp only [failed, bind_assoc]
        rfl
    | _ =>
      cases skipping with
      | true => rw [runWith_cons_skipping rfl, runWith_cons_skipping rfl, ih]
      | false =>
        rw [runWith_cons rfl, runWith_cons rfl, Step.andThen_assoc]
        exact congrArg (_ >>= Step.andThen ·) (funext fun next => ih)

/-- A block is run, and then what follows it. -/
theorem runWith_append_block (plain : Action.IsBlock block) :
    runWith call occasion (block ++ rest) false activation =
      runWith call occasion block false activation >>=
        Step.andThen (runWith call occasion rest false) := by
  induction block generalizing activation with
  | nil => rfl
  | cons action block ih =>
    obtain ⟨other, plain⟩ := List.forall_mem_cons.1 plain
    rw [List.cons_append, runWith_cons other, runWith_cons other, Step.andThen_assoc]
    exact congrArg (_ >>= Step.andThen ·) (funext fun next => ih plain)

/-- A block that is skipped does nothing. -/
theorem runWith_skipped (plain : Action.IsBlock block) :
    runWith call occasion (block ++ rest) true activation =
      runWith call occasion rest true activation := by
  induction block with
  | nil => rfl
  | cons action block ih =>
    obtain ⟨other, plain⟩ := List.forall_mem_cons.1 plain
    rw [List.cons_append, runWith_cons_skipping other, ih plain]

end Activation

end Troupe
