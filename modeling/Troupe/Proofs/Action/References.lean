import Mathlib.Data.List.Perm.Subperm
import Troupe.Action.Named
import Troupe.Proofs.Except
import Troupe.Proofs.Table

/-!
# The references of named lists

The references of named lists are walked depth first when the lists are read, and a name is done when
everything that it leads to is.  So the names that are done, the latest first, stand in an order in
which every list refers to later names only; no list leads back to itself.

## Main results

* `NamedActions.visit_walks`: what a walk that is accepted leaves done;
* `NamedActions.exists_layers`: the order of all names of accepted lists.
-/

namespace Troupe.NamedActions

variable {named : NamedActions} {levels : Nat} {path done after names : List String} {name : String}

lemma mem_references {actions : List Action} :
    name ∈ references actions ↔ .named name ∈ actions := by
  rw [references, List.mem_filterMap]
  constructor
  · rintro ⟨action, mem, refers⟩
    cases action with
    | named other =>
      cases refers
      exact mem
    | _ => cases refers
  · exact fun mem => ⟨_, mem, rfl⟩

/-- There are no more names with lists than lists. -/
lemma length_le_of_declared (nodup : names.Nodup)
    (declared : ∀ name ∈ names, ∃ list, named.find? name = some list) :
    names.length ≤ named.lists.size := by
  have keys : names ⊆ named.lists.keys := by
    intro name mem
    obtain ⟨list, found⟩ := declared name mem
    exact List.mem_map.2 ⟨_, Table.mem_entries.2 found, rfl⟩
  have le := (List.subperm_of_subset nodup keys).length_le
  rwa [Table.keys, List.length_map] at le

/-- Names of lists, each of them once, in an order in which every list refers to later ones only. -/
inductive Layers (named : NamedActions) : List String → Prop
  /-- There is no name. -/
  | nil : Layers named []
  /-- A list refers to those after it. -/
  | cons {name : String} {list : List Action} {rest : List String} (fresh : name ∉ rest)
    (found : named.find? name = some list) (refers : ∀ other ∈ references list, other ∈ rest) :
    Layers named rest → Layers named (name :: rest)

namespace Layers

lemma nodup (layers : named.Layers names) : names.Nodup := by
  induction layers with
  | nil => exact List.nodup_nil
  | cons fresh _ _ _ ih => exact List.nodup_cons.2 ⟨fresh, ih⟩

lemma declared (layers : named.Layers names) :
    ∀ name ∈ names, ∃ list, named.find? name = some list := by
  induction layers with
  | nil => exact nofun
  | cons _ found _ _ ih => exact List.forall_mem_cons.2 ⟨⟨_, found⟩, ih⟩

/-- There are no more names than lists. -/
lemma length_le (layers : named.Layers names) : names.length ≤ named.lists.size :=
  length_le_of_declared layers.nodup layers.declared

end Layers

/-- What a walk from some names leaves done. -/
structure Walks (named : NamedActions) (path done names after : List String) : Prop where
  /-- It is in order, -/
  layers : named.Layers after
  /-- with what was done before -/
  kept : done ⊆ after
  /-- and the names. -/
  reached : names ⊆ after
  /-- No name on the way to them is done by that. -/
  spared : ∀ name ∈ path, name ∈ after → name ∈ done

/-- Walking from one name after the other. -/
lemma foldlM_walks
    (walks : ∀ {done name after}, named.visit levels path done name = .ok after →
      named.Layers done → named.Walks path done [name] after)
    (walked : names.foldlM (named.visit levels path) done = .ok after)
    (layers : named.Layers done) : named.Walks path done names after := by
  induction names generalizing done with
  | nil =>
    cases walked
    exact ⟨layers, List.Subset.refl _, List.nil_subset _, fun _ _ mem => mem⟩
  | cons name names ih =>
    rw [List.foldlM_cons] at walked
    obtain ⟨middle, visited, walked⟩ := bind_eq_ok.1 walked
    have first := walks visited layers
    have rest := ih walked first.layers
    refine ⟨rest.layers, List.Subset.trans first.kept rest.kept, ?_, fun other on mem => ?_⟩
    · exact List.cons_subset.2 ⟨rest.kept (first.reached List.mem_cons_self), rest.reached⟩
    · exact first.spared other on (rest.spared other on mem)

/-- A walk from a name that is accepted leaves the name done, and all that it leads to, in order. -/
theorem visit_walks (visited : named.visit levels path done name = .ok after)
    (layers : named.Layers done) : named.Walks path done [name] after := by
  induction levels generalizing path done name after with
  | zero => cases visited
  | succ levels ih =>
    rw [visit] at visited
    split at visited
    · rename_i already
      cases visited
      exact ⟨layers, List.Subset.refl _,
        List.cons_subset.2 ⟨List.contains_iff_mem.1 already, List.nil_subset _⟩, fun _ _ mem => mem⟩
    · rename_i undone
      split at visited
      · cases visited
      · rename_i off
        split at visited
        · cases visited
        · rename_i list found
          obtain ⟨below, walked, finished⟩ := bind_eq_ok.1 visited
          cases finished
          have rest := foldlM_walks ih walked layers
          -- the name is on the way to its references, so walking from them has not done it
          have fresh : name ∉ below := fun mem =>
            undone (List.contains_iff_mem.2 (rest.spared name List.mem_cons_self mem))
          refine ⟨.cons fresh found (fun _ mem => rest.reached mem) rest.layers,
            fun _ mem => List.mem_cons_of_mem _ (rest.kept mem),
            List.cons_subset.2 ⟨List.mem_cons_self, List.nil_subset _⟩, fun other on mem => ?_⟩
          rcases List.mem_cons.1 mem with rfl | mem
          · exact absurd (List.contains_iff_mem.2 on) off
          · exact rest.spared other (List.mem_cons_of_mem _ on) mem

/-- All names of lists that are accepted stand in order. -/
theorem exists_layers (accepted : named.checkCycles = .ok ()) :
    ∃ names, named.Layers names ∧ ∀ name list, named.find? name = some list → name ∈ names := by
  obtain ⟨names, walked, -⟩ := bind_eq_ok.1 accepted
  have walks := foldlM_walks visit_walks walked .nil
  refine ⟨names, walks.layers, fun name list found => walks.reached ?_⟩
  exact List.mem_map.2 ⟨_, Table.mem_entries.2 found, rfl⟩

end Troupe.NamedActions
