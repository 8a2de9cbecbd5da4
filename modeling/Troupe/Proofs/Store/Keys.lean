import Troupe.Proofs.Store.Effects

/-!
# Keys that lead to objects

A create with a key makes an object once: from then on the key leads to the object, and a create
with this key gives the object and does nothing.  No operation but the delete of the object takes
that away, and neither does saving the store and loading it again.

## Main results

* `Store.Led.again`: a create whose key leads to an object gives it and does nothing;
* `Store.Led.execute`, `Store.Led.reload`: a key that leads to an object goes on leading to it.
-/

namespace Troupe.Store

variable {store after : Store} {key other : String} {id : Id} {op : StoreOp} {value : Json}

/-- A key leads to an object that is there. -/
structure Led (store : Store) (key : String) (id : Id) : Prop where
  /-- The key leads to the identifier, -/
  found : store.keys.find? key = some id
  /-- and there is an object of this identifier. -/
  there : (store.read id).isSome

/-- The answer to a create. -/
def created (id : Id) (new : Bool) : Json := .record [("id", .id id), ("created", .bool new)]

namespace Led

lemma keyed? (led : store.Led key id) : store.keyed? (some key) = some id :=
  keyed?_eq_some.2 ⟨key, rfl, led.found, led.there⟩

/-- A create whose key leads to an object gives it and does nothing. -/
theorem again (led : store.Led key id) (value : Json) :
    store.execute (.create value (some key)) = (.ok (created id false), store) := by
  simp only [Store.execute, apply, create, led.keyed?]
  rfl

/-- The key of a create leads to the object that it gives. -/
theorem of_create (store : Store) (value : Json) (key : String) :
    ∃ id new, (store.execute (.create value (some key))).1 = .ok (created id new) ∧
      (store.execute (.create value (some key))).2.Led key id := by
  cases found : store.keyed? (some key) with
  | some id =>
    obtain ⟨_, ⟨⟩, found, there⟩ := keyed?_eq_some.1 found
    have led : store.Led key id := ⟨found, there⟩
    exact ⟨id, false, by rw [led.again], by rwa [led.again]⟩
  | none =>
    have effect := create_effect value found
    refine ⟨store.supply.next, true, ?_, ?_, ?_⟩
    · simp only [Store.execute, apply, create, found]
      rfl
    · exact (effect.keys key).trans (if_pos rfl)
    · exact effect.value ▸ rfl

/-- Only the delete of the object keeps a key from leading to it. -/
theorem execute (led : store.Led key id) (other : op ≠ .delete id) :
    (store.execute op).2.Led key id := by
  cases done : (store.execute op).1 with
  | error cause => rwa [execute_error done]
  | ok answer =>
    rcases apply_cases (execute_ok done) with ⟨-, busy, effect⟩ | ⟨-, -, same⟩
    · refine ⟨(effect.keys key).trans (if_neg fun named => busy ?_) |>.trans led.found, ?_⟩
      · cases op with
        | create value _ => exact ⟨key, id, named, led.found, led.there⟩
        | _ => cases named
      · by_cases target : id = op.target store.supply.next
        · obtain ⟨current, there⟩ := Option.isSome_iff_exists.1 led.there
          rw [target, effect.value, ← target, there]
          cases op with
          | delete object => exact absurd (congrArg StoreOp.delete target.symm) other
          | _ => rfl
        · rw [effect.read_other id target]
          exact led.there
    · rwa [same]

/-- Saving and loading the store, keys go on leading to their objects. -/
theorem reload (led : store.Led key id) (reloaded : store.reload? = some after) :
    after.Led key id where
  found := (keys_of_reload? reloaded key).trans led.found
  there := by
    obtain ⟨value, there⟩ := Option.isSome_iff_exists.1 led.there
    have kept := read_of_reload? reloaded id
    rw [there] at kept
    cases read : after.read id with
    | none =>
      rw [read] at kept
      exact kept.elim
    | some content => rfl

end Led

/-- A create does not change where the keys of others lead. -/
lemma find?_keys_create (store : Store) (value : Json) (ne : key ≠ other) :
    (store.execute (.create value (some key))).2.keys.find? other = store.keys.find? other := by
  cases found : store.keyed? (some key) with
  | some id =>
    obtain ⟨_, ⟨⟩, found, there⟩ := keyed?_eq_some.1 found
    rw [Led.again ⟨found, there⟩]
  | none =>
    refine ((create_effect value found).keys other).trans (if_neg fun same => ne ?_)
    exact Option.some.inj same

end Troupe.Store
