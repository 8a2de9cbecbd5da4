import Mathlib.Logic.Relation
import Troupe.Proofs.Action.References

/-!
# Named lists that do not lead back

Named lists are accepted exactly if every reference in them is declared and no name leads back to
itself.  The walk that decides this meets the names in some order, and keeps those that it has
done from one start to the next; neither matters.  The names on the way to a name all lead to it.
So if none leads back to itself, they are different, and there are no more of them than lists.

From any list of actions, the references then nest at most as deep as there are named lists.

## Main results

* `NamedActions.walks_iff_sound`: in whatever order the names are walked, the walk is accepted
  exactly if the named lists are sound;
* `NamedActions.Sound.nests`: the references of sound named lists nest only so deep.
-/

namespace Troupe.NamedActions

variable {named : NamedActions} {levels depth deeper : Nat} {path done names order : List String}
variable {name other : String} {actions list : List Action}

/-! ## Soundness -/

/-- The list of a name refers to another name. -/
def Refers (named : NamedActions) (name other : String) : Prop :=
  ∃ list, named.find? name = some list ∧ .named other ∈ list

/-- The references in named lists are sound. -/
structure Sound (named : NamedActions) : Prop where
  /-- Each is declared, -/
  declared : ∀ name other, named.Refers name other → ∃ list, named.find? other = some list
  /-- and no name leads back to itself. -/
  acyclic : ∀ name, ¬ Relation.TransGen named.Refers name name

namespace Layers

/-- From one of the names, references lead to names only. -/
lemma leads (layers : named.Layers names) (mem : name ∈ names)
    (leads : Relation.ReflTransGen named.Refers name other) : other ∈ names := by
  induction leads with
  | refl => exact mem
  | tail _ refers ih =>
    obtain ⟨list, found, refers⟩ := refers
    clear mem
    induction layers with
    | nil => cases ih
    | cons _ found' later _ rest =>
      rcases List.mem_cons.1 ih with rfl | ih
      · cases found.symm.trans found'
        exact List.mem_cons_of_mem _ (later _ (mem_references.2 refers))
      · exact List.mem_cons_of_mem _ (rest ih)

/-- None of the names leads back to itself: its references are all later. -/
lemma acyclic (layers : named.Layers names) :
    ∀ name ∈ names, ¬ Relation.TransGen named.Refers name name := by
  induction layers with
  | nil => exact nofun
  | cons fresh found later rest ih =>
    refine List.forall_mem_cons.2 ⟨fun back => ?_, ih⟩
    obtain ⟨next, ⟨list, found', refers⟩, leads⟩ := Relation.TransGen.head'_iff.1 back
    cases found.symm.trans found'
    exact fresh (rest.leads (later next (mem_references.2 refers)) leads)

end Layers

/-- What a walk from all names accepts is sound. -/
lemma sound_of_walk (walked : order.foldlM (named.visit levels path) [] = .ok done)
    (all : ∀ name list, named.find? name = some list → name ∈ order) : named.Sound := by
  have walks := foldlM_walks visit_walks walked .nil
  refine ⟨fun name other refers => ?_, fun name back => ?_⟩
  · obtain ⟨list, found, -⟩ := id refers
    exact walks.layers.declared other
      (walks.layers.leads (walks.reached (all name list found)) (.single refers))
  · obtain ⟨next, ⟨list, found, -⟩, -⟩ := Relation.TransGen.head'_iff.1 back
    exact walks.layers.acyclic name (walks.reached (all name list found)) back

/-! ## The way to a name -/

/-- A way along references to a name, the latest name before it first. -/
inductive Way (named : NamedActions) : (path : List String) → (name : String) → Prop
  /-- It starts anywhere. -/
  | start (name : String) : Way named [] name
  /-- A reference leads on. -/
  | step {path : List String} {name other : String} :
    Way named path name → named.Refers name other → Way named (name :: path) other

namespace Way

/-- Every name on the way leads to the last one. -/
lemma leads (way : named.Way path name) :
    ∀ other ∈ path, Relation.TransGen named.Refers other name := by
  induction way with
  | start => exact nofun
  | step _ refers ih =>
    exact List.forall_mem_cons.2 ⟨.single refers, fun other mem => (ih other mem).tail refers⟩

lemma declared (way : named.Way path name) :
    ∀ other ∈ path, ∃ list, named.find? other = some list := by
  intro other mem
  obtain ⟨_, ⟨list, found, -⟩, -⟩ := Relation.TransGen.head'_iff.1 (way.leads other mem)
  exact ⟨list, found⟩

/-- The names on the way are different. -/
lemma nodup (way : named.Way path name) (sound : named.Sound) : path.Nodup := by
  induction way with
  | start => exact List.nodup_nil
  | step way _ ih =>
    exact List.nodup_cons.2 ⟨fun mem => sound.acyclic _ (way.leads _ mem), ih⟩

end Way

/-! ## Walks that are accepted -/

/-- Walking from one name after the other is accepted if each of the walks is. -/
lemma exists_foldlM (each : ∀ done, ∀ name ∈ names, ∃ after,
    named.visit levels path done name = .ok after) (done : List String) :
    ∃ after, names.foldlM (named.visit levels path) done = .ok after := by
  induction names generalizing done with
  | nil => exact ⟨done, rfl⟩
  | cons name names ih =>
    obtain ⟨middle, visited⟩ := each done name List.mem_cons_self
    obtain ⟨after, walked⟩ :=
      ih (fun done other mem => each done other (List.mem_cons_of_mem _ mem)) middle
    exact ⟨after, by rw [List.foldlM_cons, visited, ok_bind_eq, walked]⟩

/-- In sound lists, a walk from a name is accepted, if enough levels are left for the lists that
are not on the way. -/
theorem Sound.exists_visit (sound : named.Sound) (declared : ∃ list, named.find? name = some list)
    (way : named.Way path name) (enough : named.lists.size < path.length + levels) :
    ∃ after, named.visit levels path done name = .ok after := by
  induction levels generalizing path done name with
  | zero => exact absurd (length_le_of_declared (way.nodup sound) way.declared) (by omega)
  | succ levels ih =>
    rw [visit]
    split
    · exact ⟨done, rfl⟩
    · have off : path.contains name = false := by
        rw [← Bool.not_eq_true, List.contains_iff_mem]
        exact fun mem => sound.acyclic name (way.leads name mem)
      obtain ⟨list, found⟩ := declared
      have further : ∀ done, ∀ other ∈ references list, ∃ after,
          named.visit levels (name :: path) done other = .ok after := by
        intro done other mem
        have refers : named.Refers name other := ⟨list, found, mem_references.1 mem⟩
        refine ih (sound.declared name other refers) (way.step refers) ?_
        rw [List.length_cons]
        omega
      obtain ⟨below, walked⟩ := exists_foldlM further done
      refine ⟨name :: below, ?_⟩
      rw [off, found]
      simp only [Bool.false_eq_true, if_false, walked, ok_bind_eq]
      rfl

/-- **A walk from all names is accepted exactly if the named lists are sound**, in whatever order
the names come. -/
theorem walks_iff_sound (enough : named.lists.size < levels)
    (all : ∀ name, name ∈ order ↔ ∃ list, named.find? name = some list) :
    (∃ done, order.foldlM (named.visit levels []) [] = .ok done) ↔ named.Sound := by
  constructor
  · rintro ⟨done, walked⟩
    exact sound_of_walk walked fun name list found => (all name).2 ⟨list, found⟩
  · intro sound
    refine exists_foldlM (fun done name mem => ?_) []
    exact sound.exists_visit ((all name).1 mem) (.start name) (by simpa using enough)

lemma mem_keys : name ∈ named.lists.keys ↔ ∃ list, named.find? name = some list := by
  rw [Table.keys, List.mem_map]
  constructor
  · rintro ⟨⟨name, list⟩, mem, rfl⟩
    exact ⟨list, Table.mem_entries.1 mem⟩
  · rintro ⟨list, found⟩
    exact ⟨(name, list), Table.mem_entries.2 found, rfl⟩

lemma checkCycles_eq_ok : named.checkCycles = .ok () ↔ named.Sound := by
  rw [← walks_iff_sound (Nat.lt_succ_self _) fun _ => mem_keys, checkCycles, bind_eq_ok]
  exact ⟨fun ⟨done, walked, _⟩ => ⟨done, walked⟩, fun ⟨done, walked⟩ => ⟨done, walked, rfl⟩⟩

lemma checkReferences_eq_ok : named.checkReferences actions = .ok () ↔
    ∀ name, .named name ∈ actions → ∃ list, named.find? name = some list := by
  have missing : ∀ name, (!named.lists.contains name) = true ↔
      ¬ ∃ list, named.find? name = some list := by
    intro name
    rw [Bool.not_eq_true', ← Bool.not_eq_true, Table.contains_iff]
    rfl
  rw [checkReferences]
  split
  · rename_i name found
    refine ⟨nofun, fun all => ?_⟩
    have mem := mem_references.1 (List.mem_of_find?_eq_some found)
    have undeclared := List.find?_some found
    exact absurd (all name mem) ((missing name).1 undeclared)
  · rename_i none
    refine ⟨fun _ name mem => ?_, fun _ => rfl⟩
    by_contra undeclared
    exact List.find?_eq_none.1 none name (mem_references.2 mem) ((missing name).2 undeclared)

/-! ## How deep references nest -/

/-- References nest at most so deep: each is declared, and in the lists that they name references
nest less deep. -/
def NestsWithin (named : NamedActions) : (depth : Nat) → (actions : List Action) → Prop
  | 0, actions => ∀ name, .named name ∉ actions
  | depth + 1, actions => ∀ name, .named name ∈ actions →
    ∃ list, named.find? name = some list ∧ named.NestsWithin depth list

namespace NestsWithin

lemma succ (nests : named.NestsWithin depth actions) : named.NestsWithin (depth + 1) actions := by
  induction depth generalizing actions with
  | zero => exact fun name mem => absurd mem (nests name)
  | succ depth ih =>
    intro name mem
    obtain ⟨list, found, inner⟩ := nests name mem
    exact ⟨list, found, ih inner⟩

lemma mono (nests : named.NestsWithin depth actions) (le : depth ≤ deeper) :
    named.NestsWithin deeper actions := by
  induction le with
  | refl => exact nests
  | step _ ih => exact ih.succ

/-- A reference leads to a list in which references nest less deep, at any rate no deeper. -/
lemma found (nests : named.NestsWithin depth actions) (mem : .named name ∈ actions) :
    ∃ list, named.find? name = some list ∧ named.NestsWithin depth list := by
  cases depth with
  | zero => exact absurd mem (nests name)
  | succ depth =>
    obtain ⟨list, found, inner⟩ := nests name mem
    exact ⟨list, found, inner.succ⟩

end NestsWithin

/-- References to names that stand in order nest at most as deep as there are names. -/
lemma Layers.nests (layers : named.Layers names) (refers : ∀ name, .named name ∈ actions →
    name ∈ names) : named.NestsWithin names.length actions := by
  induction layers generalizing actions with
  | nil => exact fun name mem => List.not_mem_nil (refers name mem)
  | @cons first list rest fresh found later layers ih =>
    intro name mem
    rcases List.mem_cons.1 (refers name mem) with rfl | mem
    · exact ⟨list, found, ih fun other mem => later other (mem_references.2 mem)⟩
    · obtain ⟨list, found⟩ := layers.declared name mem
      exact ⟨list, found, ih fun other refers => layers.leads mem (.single ⟨list, found, refers⟩)⟩

/-- The references of sound named lists nest at most as deep as there are named lists. -/
theorem Sound.nests (sound : named.Sound)
    (declared : ∀ name, .named name ∈ actions → ∃ list, named.find? name = some list) :
    named.NestsWithin named.lists.size actions := by
  obtain ⟨names, layers, all⟩ := exists_layers (checkCycles_eq_ok.2 sound)
  have nests : named.NestsWithin names.length actions := by
    refine layers.nests fun name mem => ?_
    obtain ⟨list, found⟩ := declared name mem
    exact all name list found
  exact nests.mono layers.length_le

end Troupe.NamedActions
