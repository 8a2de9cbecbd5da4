import Troupe.Proofs.Action.Cycles
import Troupe.Proofs.Behavior.Loading
import Troupe.Proofs.Pass.Inlining
import Troupe.Proofs.Pass.Requests

/-!
# Running named lists comes to an end

Running a reference runs the list that it names, and nothing in that says where it ends.  It does
for a definition that was loaded, because the named lists are sound and every list that the
definition runs refers to them only.  So a bound on how deep references nest makes no difference,
and neither does what is done for a name that has no list.

## Main results

* `Behavior.declared_of_load`: the references of all lists that a loaded definition runs;
* `Activation.Follows.runWith_eq`: references can be run in one way only;
* `Behavior.expansion_ends`: which named lists are accepted, and how they run then.
-/

namespace Troupe

namespace NamedActions

variable {named : NamedActions} {depth : Nat} {actions inlined rest : List Action} {action : Action}

/-- Named lists that can all be read are accepted exactly if they are sound. -/
lemma exists_ofJson {fields : List (String × Json)} {lists : List (String × List Action)}
    (all : fields.mapM namedList = .ok lists) :
    (∃ named, ofJson (some (.obj fields)) = .ok named) ↔ Sound ⟨Table.ofList lists⟩ := by
  have read : ofJson (some (.obj fields)) = (fields.mapM namedList >>= fun lists =>
      checkCycles ⟨Table.ofList lists⟩ >>= fun _ => pure ⟨Table.ofList lists⟩) := rfl
  rw [read, all, ok_bind_eq, ← checkCycles_eq_ok]
  simp only [check_eq_ok, pure_eq_ok]
  constructor
  · rintro ⟨_, accepted, -⟩
    exact accepted
  · exact fun accepted => ⟨_, accepted, rfl⟩

namespace NestsWithin

lemma tail (nests : named.NestsWithin depth (action :: rest)) : named.NestsWithin depth rest := by
  cases depth with
  | zero => exact fun name mem => nests name (List.mem_cons_of_mem _ mem)
  | succ depth => exact fun name mem => nests name (List.mem_cons_of_mem _ mem)

/-- Written out, a list in which references nest only so deep has none left. -/
lemma inlines (nests : named.NestsWithin depth actions) (inlines : named.Inlines actions inlined) :
    ∀ name, .named name ∉ inlined := by
  induction inlines with
  | nil => exact fun _ => List.not_mem_nil
  | keep plain _ ih =>
    intro name mem
    rcases List.mem_cons.1 mem with rfl | mem
    · obtain ⟨list, found, -⟩ := nests.found List.mem_cons_self
      cases (plain name rfl).symm.trans found
    · exact ih nests.tail name mem
  | expand found _ _ own ih =>
    intro name mem
    obtain ⟨list, found', inner⟩ := nests.found List.mem_cons_self
    cases found.symm.trans found'
    rcases List.mem_append.1 mem with mem | mem
    · exact own inner name mem
    · exact ih nests.tail name mem

end NestsWithin

end NamedActions

/-! ## Running references -/

namespace Activation

open NamedActions

variable {occasion : Occasion} {call other : String → Activation → Pass Step} {depth : Nat}
variable {actions : List Action}

/-- A way to run named lists runs the references in them by itself, without any bound.  What it does
for a name that has no list is left open. -/
def Follows (occasion : Occasion) (call : String → Activation → Pass Step) : Prop :=
  ∀ name list, occasion.named.find? name = some list → ∀ activation,
    call name activation = runWith call occasion list false activation

/-- Where references nest only so deep, there is one way to run them. -/
theorem Follows.runWith_eq (follows : Follows occasion call) (again : Follows occasion other)
    (nests : occasion.named.NestsWithin depth actions) :
    runWith call occasion actions = runWith other occasion actions := by
  induction depth generalizing actions with
  | zero => exact runWith_congr fun name mem => absurd (mem_references.1 mem) (nests name)
  | succ depth ih =>
    refine runWith_congr fun name mem => ?_
    obtain ⟨list, found, inner⟩ := nests name (mem_references.1 mem)
    funext activation
    rw [follows name list found, again name list found, ih inner]

/-- Running named lists with as many levels as there are lists is a way without bound. -/
lemma follows_runNamed (sound : occasion.named.Sound) :
    Follows occasion (runNamed occasion occasion.named.lists.size) :=
  fun _ _ found activation => runNamed_eq (checkCycles_eq_ok.2 sound) found activation

/-- Running a list of actions comes to an end. -/
structure Ends (occasion : Occasion) (actions : List Action) : Prop where
  /-- References are declared and nest at most as deep as there are named lists. -/
  nests : occasion.named.NestsWithin occasion.named.lists.size actions
  /-- Written out, the list has finitely many actions, and none of them is a reference. -/
  expands : ∃ inlined, occasion.named.Inlines actions inlined ∧ ∀ name, .named name ∉ inlined
  /-- There is a way to run named lists without any bound, -/
  follows : ∃ call, Follows occasion call
  /-- and any such way runs the list as it is run, whatever it does for names without lists. -/
  same : ∀ call, Follows occasion call → ∀ activation,
    runWith call occasion actions false activation = activation.run occasion actions

/-- Running a list comes to an end if its references are declared and the named lists sound. -/
lemma Ends.of_sound (sound : occasion.named.Sound)
    (declared : ∀ name, .named name ∈ actions → ∃ list, occasion.named.find? name = some list) :
    Ends occasion actions := by
  have nests := sound.nests declared
  obtain ⟨inlined, inlines, -⟩ := existsUnique_inlines (checkCycles_eq_ok.2 sound) actions
  refine ⟨nests, ⟨inlined, inlines, nests.inlines inlines⟩, ⟨_, follows_runNamed sound⟩, ?_⟩
  intro call follows activation
  rw [follows.runWith_eq (follows_runNamed sound) nests]
  rfl

end Activation

/-! ## Loaded definitions -/

namespace Behavior

variable {definition : Json} {config : Config} {behavior : Behavior} {actions : List Action}

/-- The named lists of a loaded definition are sound. -/
lemma sound_of_load (loaded : load definition config = .ok behavior) : behavior.named.Sound :=
  NamedActions.checkCycles_eq_ok.1 (checkCycles_of_load loaded)

/-- The lists of a loaded definition refer only to lists that are declared. -/
theorem declared_of_load (loaded : load definition config = .ok behavior)
    (lists : behavior.Lists actions) :
    ∀ name, .named name ∈ actions → ∃ list, behavior.named.find? name = some list := by
  have sound := sound_of_load loaded
  cases behavior with
  | machine machine limit suppressed =>
    obtain ⟨-, -, -, -, checked⟩ := MachineDefinition.ofJson_eq_ok.1 (ofJson_of_load loaded)
    have passed : ∀ {state node}, machine.states.find? state = some node →
        machine.checkState state node = .ok () := fun {state node} found =>
      checked (state, node) (Table.mem_entries.2 found)
    cases lists with
    | named own => exact fun name mem => sound.declared _ name ⟨_, own, mem⟩
    | entry found =>
      obtain ⟨entry, -, -⟩ := MachineDefinition.checkState_eq_ok.1 (passed found)
      exact NamedActions.checkReferences_eq_ok.1 entry
    | exit found =>
      obtain ⟨-, exit, -⟩ := MachineDefinition.checkState_eq_ok.1 (passed found)
      exact NamedActions.checkReferences_eq_ok.1 exit
    | transition found listed mem =>
      obtain ⟨-, -, candidates⟩ := MachineDefinition.checkState_eq_ok.1 (passed found)
      refine NamedActions.checkReferences_eq_ok.1 (candidates _ ?_).2
      exact List.mem_flatMap.2 ⟨(_, _), Table.mem_entries.2 listed, mem⟩
  | process process suppressed =>
    cases lists with
    | named own => exact fun name mem => sound.declared _ name ⟨_, own, mem⟩
    | handler found =>
      obtain ⟨-, fields, lists, read, same⟩ :=
        ProcessDefinition.exists_of_ofJson (ofJson_process_of_load loaded)
      rw [same] at found
      obtain ⟨field, -, own⟩ := exists_of_find?_mapM read found
      exact NamedActions.checkReferences_eq_ok.1 (ProcessDefinition.handler_eq_ok.1 own).2.2

/-- **The check for cycles is exact and makes running end.**  Named lists that can all be read are
accepted exactly if every reference in them is declared and no name leads back to itself, in
whatever order their names are walked.  When a definition was loaded, running any list that it has
comes to an end. -/
theorem expansion_ends :
    (∀ fields lists, fields.mapM NamedActions.namedList = .ok lists →
      ((∃ named, NamedActions.ofJson (some (.obj fields)) = .ok named) ↔
        NamedActions.Sound ⟨Table.ofList lists⟩)) ∧
    (∀ (named : NamedActions) levels (order : List String), named.lists.size < levels →
      (∀ name, name ∈ order ↔ ∃ list, named.find? name = some list) →
      ((∃ done, order.foldlM (named.visit levels []) [] = .ok done) ↔ named.Sound)) ∧
    ∀ definition config behavior, load definition config = .ok behavior →
      ∀ actions, behavior.Lists actions → ∀ actor event,
        Activation.Ends ⟨actor, behavior.named, event⟩ actions := by
  refine ⟨fun _ _ all => NamedActions.exists_ofJson all,
    fun _ _ _ enough all => NamedActions.walks_iff_sound enough all, ?_⟩
  intro definition config behavior loaded actions lists actor event
  exact .of_sound (sound_of_load loaded) (declared_of_load loaded lists)

namespace Sample

/-- What is counted at every pace. -/
def count : Json := .record [("paces", .str "$context.paces + 1")]

/-- The behavior of someone who marches two paces at a time. -/
def march : Json := .record
  [("kind", .str "process"),
    ("actions", .record [("double", .arr [.str "pace", .str "pace"]),
      ("pace", .record [("ctx", count)])]),
    ("handlers", .record [("go", .str "double")])]

/-- Their named lists. -/
def paces : NamedActions :=
  ⟨.ofList [("double", [.named "pace", .named "pace"]), ("pace", [.ctx count])]⟩

lemma load_march : load march {} =
    .ok (.process ⟨.ofList [("go", [.named "double"])], paces⟩ ["dragging"]) := rfl

end Sample

/-- Paces are named without a way back, whichever name is walked first, and marching them ends; two
names that lead to each other are not accepted. -/
theorem expansion_ends_march :
    Sample.paces.Sound ∧
    (∃ done, ["pace", "double"].foldlM (Sample.paces.visit 3 []) [] = .ok done) ∧
    (∀ actor event, Activation.Ends ⟨actor, Sample.paces, event⟩ [.named "double"]) ∧
    ¬ NamedActions.Sound ⟨.ofList [("left", [.named "right"]), ("right", [.named "left"])]⟩ := by
  obtain ⟨accepts, orders, ends⟩ := expansion_ends
  have sound : Sample.paces.Sound := (accepts [("double", .arr [.str "pace", .str "pace"]),
    ("pace", .record [("ctx", Sample.count)])] _ rfl).1 ⟨_, rfl⟩
  have all : ∀ name, name ∈ ["pace", "double"] ↔ ∃ list, Sample.paces.find? name = some list := by
    intro name
    rw [← NamedActions.mem_keys]
    exact (List.Perm.swap "double" "pace" []).mem_iff
  refine ⟨sound, (orders Sample.paces 3 _ (by decide) all).2 sound, ?_, fun circular => ?_⟩
  · have found : (Table.ofList [("go", [Action.named "double"])]).find? "go" =
        some [.named "double"] := rfl
    exact ends Sample.march {} _ Sample.load_march _ (.handler found)
  · obtain ⟨named, read⟩ :=
      (accepts [("left", .str "right"), ("right", .str "left")] _ rfl).2 circular
    cases read

end Behavior

end Troupe
