import Troupe.Proofs.Action.References
import Troupe.Proofs.Behavior.StateField
import Troupe.Proofs.Pass.Blocks

/-!
# References put in place

A reference runs the list that it names.  So a list of actions can be written out, with every
reference replaced by the actions that it names, and so on; for accepted lists this comes to an end.
A list that is written out has only one set of blocks, while in a reference the guards of the named
list end with it.  So the two run in the same way where no named list has a guard.

## Main results

* `NamedActions.existsUnique_inlines`: there is one way to write a list out;
* `Activation.run_reference`: a reference runs the list that it names, as a list of its own;
* `Activation.run_inlines`: without guards in named lists, a list that is written out runs in the
  same way.
-/

namespace Troupe

namespace NamedActions

variable {named : NamedActions} {actions list inlined other names : List Action}

/-- A list of actions with every reference replaced by the actions that it names, and the references
among those likewise.  A reference to no list stays. -/
inductive Inlines (named : NamedActions) : (actions inlined : List Action) → Prop
  /-- There is nothing to replace. -/
  | nil : Inlines named [] []
  /-- What refers to no list stays. -/
  | keep {action : Action} {rest inlined : List Action}
    (plain : ∀ name, action = .named name → named.find? name = none) :
    Inlines named rest inlined → Inlines named (action :: rest) (action :: inlined)
  /-- A reference is replaced. -/
  | expand {name : String} {list rest own inlined : List Action}
    (found : named.find? name = some list) :
    Inlines named list own → Inlines named rest inlined →
    Inlines named (.named name :: rest) (own ++ inlined)

/-- No list that some actions refer to has a guard, nor does any that those refer to, and so on. -/
def Unguarded (named : NamedActions) (actions : List Action) : Prop :=
  ∀ last, named.Leads actions last → ∀ name list, .named name ∈ last →
    named.find? name = some list → Action.IsBlock list

/-- There is at most one way to write a list out. -/
lemma Inlines.unique (inlines : named.Inlines actions inlined)
    (again : named.Inlines actions other) : inlined = other := by
  induction inlines generalizing other with
  | nil =>
    cases again
    rfl
  | keep plain _ ih =>
    cases again with
    | keep _ rest => rw [ih rest]
    | expand found _ _ => cases (plain _ rfl).symm.trans found
  | expand found _ _ own ih =>
    cases again with
    | keep plain _ => cases (plain _ rfl).symm.trans found
    | expand found' list rest =>
      cases found.symm.trans found'
      rw [own list, ih rest]

/-- A list can be written out if those can that it refers to. -/
lemma exists_inlines (own : ∀ name ∈ references actions, ∀ list, named.find? name = some list →
    ∃ inlined, named.Inlines list inlined) : ∃ inlined, named.Inlines actions inlined := by
  induction actions with
  | nil => exact ⟨[], .nil⟩
  | cons action rest ih =>
    obtain ⟨inlined, written⟩ := ih fun name mem =>
      own name (mem_references.2 (List.mem_cons_of_mem _ (mem_references.1 mem)))
    by_cases refers : ∃ name list, action = .named name ∧ named.find? name = some list
    · obtain ⟨name, list, rfl, found⟩ := refers
      obtain ⟨first, done⟩ := own name (mem_references.2 List.mem_cons_self) list found
      exact ⟨first ++ inlined, .expand found done written⟩
    · refine ⟨action :: inlined, .keep (fun name same => ?_) written⟩
      exact Option.eq_none_iff_forall_ne_some.2 fun list found => refers ⟨name, list, same, found⟩

/-- The lists in order can be written out, the last ones first. -/
lemma Layers.exists_inlines {names : List String} (layers : named.Layers names) :
    ∀ name ∈ names, ∀ list, named.find? name = some list →
      ∃ inlined, named.Inlines list inlined := by
  induction layers with
  | nil => exact nofun
  | cons _ found refers _ ih =>
    refine List.forall_mem_cons.2 ⟨fun list found' => ?_, ih⟩
    cases found.symm.trans found'
    exact NamedActions.exists_inlines fun other mem => ih other (refers other mem)

/-- There is one way to write a list out, if the named lists are accepted. -/
theorem existsUnique_inlines (accepted : named.checkCycles = .ok ()) (actions : List Action) :
    ∃! inlined, named.Inlines actions inlined := by
  obtain ⟨names, layers, all⟩ := exists_layers accepted
  have lists : ∀ name ∈ references actions, ∀ list, named.find? name = some list →
      ∃ inlined, named.Inlines list inlined := fun name _ list found =>
    layers.exists_inlines name (all name list found) list found
  obtain ⟨inlined, written⟩ := exists_inlines lists
  exact ⟨inlined, written, fun other again => again.unique written⟩

lemma Unguarded.tail {action : Action} (unguarded : named.Unguarded (action :: actions)) :
    named.Unguarded actions := by
  intro last leads name list mem found
  cases leads with
  | self => exact unguarded _ (.self _) name list (List.mem_cons_of_mem _ mem) found
  | step refers found' leads =>
    exact unguarded last (.step (List.mem_cons_of_mem _ refers) found' leads) name list mem found

lemma Unguarded.referred {name : String} (unguarded : named.Unguarded actions)
    (mem : .named name ∈ actions) (found : named.find? name = some list) : named.Unguarded list :=
  fun last leads => unguarded last (.step mem found leads)

/-- Writing out a block adds no guards. -/
lemma Inlines.isBlock (inlines : named.Inlines actions inlined)
    (unguarded : named.Unguarded actions) (plain : Action.IsBlock actions) :
    Action.IsBlock inlined := by
  induction inlines with
  | nil => exact plain
  | keep _ _ ih =>
    obtain ⟨first, rest⟩ := List.forall_mem_cons.1 plain
    exact List.forall_mem_cons.2 ⟨first, ih unguarded.tail rest⟩
  | expand found _ _ own ih =>
    have guardless := unguarded _ (.self _) _ _ List.mem_cons_self found
    have list := own (unguarded.referred List.mem_cons_self found) guardless
    have rest := ih unguarded.tail (List.forall_mem_cons.1 plain).2
    exact List.forall_mem_append.2 ⟨list, rest⟩

end NamedActions

namespace Activation

open NamedActions

variable {call call' : String → Activation → Pass Step} {occasion : Occasion}
variable {actions list inlined : List Action} {name : String} {names : List String}
variable {levels levels' : Nat}

/-- Two lists run in the same way if their first action does and so do the rest. -/
lemma runWith_cons_congr {action : Action} {rest rest' : List Action}
    (first : ∀ activation, runOne call occasion action activation =
      runOne call' occasion action activation)
    (others : ∀ skipping activation, runWith call occasion rest skipping activation =
      runWith call' occasion rest' skipping activation) (skipping : Bool) (activation : Activation) :
    runWith call occasion (action :: rest) skipping activation =
      runWith call' occasion (action :: rest') skipping activation := by
  cases guarded : action.isGuard with
  | true =>
    cases action with
    | guard guard =>
      rw [runWith, runWith]
      split
      · exact others _ _
      · rfl
    | _ => cases guarded
  | false =>
    cases skipping with
    | true => rw [runWith_cons_skipping guarded, runWith_cons_skipping guarded, others]
    | false =>
      rw [runWith_cons guarded, runWith_cons guarded, first]
      exact congrArg (_ >>= Step.andThen ·) (funext fun next => others false next)

/-- Only the lists matter that actions refer to. -/
lemma runWith_congr (same : ∀ name ∈ references actions, call name = call' name) :
    runWith call occasion actions = runWith call' occasion actions := by
  induction actions with
  | nil => rfl
  | cons action rest ih =>
    have others := ih fun name mem =>
      same name (mem_references.2 (List.mem_cons_of_mem _ (mem_references.1 mem)))
    funext skipping activation
    refine runWith_cons_congr (fun activation => ?_) (fun _ _ => by rw [others]) skipping activation
    cases action with
    | named name => exact congrFun (same name (mem_references.2 List.mem_cons_self)) activation
    | _ => rfl

/-- Lists that refer to later ones only nest at most as deep as there are names, and more levels
make no difference. -/
lemma runNamed_congr (layers : occasion.named.Layers names) (enough : names.length ≤ levels)
    (enough' : names.length ≤ levels') :
    ∀ name ∈ names, runNamed occasion levels name = runNamed occasion levels' name := by
  induction layers generalizing levels levels' with
  | nil => exact nofun
  | cons _ found refers _ ih =>
    rw [List.length_cons] at enough enough'
    refine List.forall_mem_cons.2 ⟨?_, ih (by omega) (by omega)⟩
    cases levels with
    | zero => omega
    | succ levels =>
      cases levels' with
      | zero => omega
      | succ levels' =>
        have deeper := ih (Nat.le_of_succ_le_succ enough) (Nat.le_of_succ_le_succ enough')
        have same := fun other mem => deeper other (refers other mem)
        funext activation
        rw [runNamed, runNamed, found]
        dsimp only
        rw [runWith_congr same]

/-- A reference runs the list that it names, as a list of its own. -/
lemma runNamed_eq (accepted : occasion.named.checkCycles = .ok ())
    (found : occasion.named.find? name = some list) (activation : Activation) :
    runNamed occasion occasion.named.lists.size name activation = activation.run occasion list := by
  obtain ⟨names, layers, all⟩ := exists_layers accepted
  have enough := layers.length_le
  have deeper := Nat.le_succ_of_le enough
  rw [runNamed_congr layers enough deeper name (all name list found), runNamed, found]
  rfl

/-- When the list that a reference names proceeds to its end, so do the actions after the reference,
whatever guards the list has. -/
lemma run_reference {block rest : List Action} (accepted : occasion.named.checkCycles = .ok ())
    (found : occasion.named.find? name = some list) (plain : Action.IsBlock block)
    (activation : Activation) : activation.run occasion (.named name :: (block ++ rest)) =
      activation.run occasion list >>= Step.andThen fun last =>
        last.run occasion block >>= Step.andThen fun last => last.run occasion rest := by
  rw [run, runWith_cons rfl, runOne, runNamed_eq accepted found]
  exact congrArg (_ >>= Step.andThen ·) (funext fun last => runWith_append_block plain)

/-- Without guards in named lists, a list that is written out runs in the same way. -/
theorem run_inlines (accepted : occasion.named.checkCycles = .ok ())
    (inlines : occasion.named.Inlines actions inlined)
    (unguarded : occasion.named.Unguarded actions) (activation : Activation) :
    activation.run occasion actions = activation.run occasion inlined := by
  -- the lists are compared from any point on, in a block that is skipped or not
  suffices same : ∀ skipping activation,
      runWith (runNamed occasion occasion.named.lists.size) occasion actions skipping activation =
        runWith (runNamed occasion occasion.named.lists.size) occasion inlined skipping activation
    from same false activation
  clear activation
  induction inlines with
  | nil => exact fun _ _ => rfl
  | keep _ _ ih => exact runWith_cons_congr (fun _ => rfl) (ih unguarded.tail)
  | @expand name list _ own _ found written _ list_eq ih =>
    intro skipping activation
    have guardless := unguarded _ (.self _) name list List.mem_cons_self found
    have inner := unguarded.referred List.mem_cons_self found
    have plain : Action.IsBlock own := written.isBlock inner guardless
    have rest_eq := ih unguarded.tail
    cases skipping with
    | true => rw [runWith_cons_skipping rfl, runWith_skipped plain, rest_eq]
    | false =>
      rw [runWith_cons rfl, runWith_append_block plain, ← list_eq inner, runOne,
        runNamed_eq accepted found]
      exact congrArg (_ >>= Step.andThen ·) (funext fun next => rest_eq false next)

end Activation

end Troupe
