import Troupe.Proofs.Store.Reload

/-!
# What operations do to a store

An operation is refused and leaves the store as it is, finds nothing to do and leaves it as it
is, or takes effect: then it writes the one object that it names or makes, and the listeners of
that object are called with what the operation leaves of it.  Its answer tells which of these
has happened, so that whoever keeps the answers can say how often an object was written.

## Main results

* `Store.execute_atomic`: an operation takes effect as a whole or not at all;
* `Store.writeCount_runAll`: the write count of an object is the number of operations that took
  effect on it.
-/

namespace Troupe

/-- The items of the list in a field of an object. -/
def Json.itemsIn (object : Json) (field : String) : List Json :=
  match object.field? field with
  | some (.arr items) => items
  | _ => []

namespace StoreOp

/-- The object that an operation names; a create makes the one that has the next identifier. -/
def target (op : StoreOp) (next : Id) : Id :=
  match op with
  | .create .. => next
  | .update id _ | .delete id | .push id _ _ => id

/-- The object that an operation names; a create names none. -/
def object? : StoreOp → Option Id
  | .create .. => none
  | .update id _ | .delete id | .push id _ _ => some id

/-- What an operation leaves of its object: its new value, or nothing. -/
def leaves (op : StoreOp) (current : Option Json) : Option Json :=
  match op with
  | .create value _ => some value
  | .update _ patch => current.map fun object => object.merge patch
  | .delete _ => none
  | .push _ field item => current.map fun object =>
      object.setField field (.arr (object.itemsIn field ++ [item]))

/-- The key that is to lead to the object of an operation from now on. -/
def key? : StoreOp → Option String
  | .create _ key => key
  | _ => none

/-- Whether an operation took effect, by its answer: a create may have found its object made,
and a delete may have found none. -/
def tookEffect (op : StoreOp) (answer : Json) : Bool :=
  match op with
  | .create .. => (answer.field? "created").bind Json.bool? == some true
  | .delete _ => (answer.field? "deleted").bind Json.bool? == some true
  | .update .. | .push .. => true

/-- There is nothing to do for an operation: its key leads to an object, or the object that it
is to drop is not there. -/
def FindsNothing (op : StoreOp) (store : Store) : Prop :=
  match op with
  | .create _ key => ∃ name id, key = some name ∧ store.keys.find? name = some id ∧
      (store.read id).isSome
  | .delete id => store.read id = none
  | .update .. | .push .. => False

end StoreOp

namespace Store

variable {store before after : Store} {op : StoreOp} {answer : Json} {id : Id}

/-! ## One operation -/

/-- What an operation that takes effect does to a store: one write to its object. -/
structure Effect (before : Store) (op : StoreOp) (after : Store) : Prop
    extends before.Write (op.target before.supply.next) after where
  /-- The value of the object is what the operation leaves of it. -/
  value : after.read (op.target before.supply.next) =
    op.leaves (before.read (op.target before.supply.next))
  /-- The key of the operation leads to the object, and every other key leads where it led. -/
  keys : ∀ key, after.keys.find? key =
    if op.key? = some key then some (op.target before.supply.next) else before.keys.find? key

/-- An operation takes effect as a whole or not at all. -/
structure Atomic (store : Store) (op : StoreOp) : Prop where
  /-- One that is refused leaves the store as it is, calls included. -/
  refused : ∀ cause, (store.execute op).1 = .error cause → (store.execute op).2 = store
  /-- So does one that answers that it did nothing. -/
  idle : ∀ answer, (store.execute op).1 = .ok answer → op.tookEffect answer = false →
    (store.execute op).2 = store
  /-- Any other takes effect, -/
  effect : ∀ answer, (store.execute op).1 = .ok answer → op.tookEffect answer = true →
    store.Effect op (store.execute op).2
  /-- and its object is not protected. -/
  free : ∀ answer, (store.execute op).1 = .ok answer → op.tookEffect answer = true →
    op.target store.supply.next ∉ store.locked
  /-- A protected object stays, whatever comes of the operation. -/
  guarded : ∀ id ∈ store.locked, (store.execute op).2.read id = store.read id
  /-- It answers that it did nothing exactly when there is nothing to do. -/
  nothing : ∀ answer, (store.execute op).1 = .ok answer →
    (op.tookEffect answer = false ↔ op.FindsNothing store)

lemma locked_of_checkWritable (free : store.checkWritable id = .ok ()) : id ∉ store.locked := by
  intro mem
  rw [checkWritable, if_pos (List.contains_iff_mem.2 mem)] at free
  cases free

lemma keyed?_eq_some {key : Option String} : store.keyed? key = some id ↔
    ∃ name, key = some name ∧ store.keys.find? name = some id ∧ (store.read id).isSome := by
  cases key with
  | none => simp [keyed?]
  | some name =>
    simp only [keyed?, Option.bind_eq_bind, Option.bind_some, Option.some.injEq]
    constructor
    · intro found
      obtain ⟨other, led, live⟩ := Option.bind_eq_some_iff.1 found
      split at live
      · rename_i there
        cases live
        exact ⟨name, rfl, led, there⟩
      · cases live
    · rintro ⟨_, rfl, led, there⟩
      rw [led, Option.bind_some, if_pos (show store.objects.contains id = true from there)]

lemma listIn_eq {object : Json} {field : String} {items : List Json}
    (listed : listIn id object field = .ok items) : items = object.itemsIn field := by
  unfold listIn at listed
  split at listed
  · split at listed
    · rename_i missing
      cases listed
      rw [Json.itemsIn, Json.field?_obj, missing]
    · rename_i there
      cases listed
      rw [Json.itemsIn, Json.field?_obj, there]
    · cases listed
  · cases listed

/-! ### Each kind of operation -/

/-- A create without a key that leads to an object takes effect. -/
lemma create_effect {key : Option String} (value : Json) (new : store.keyed? key = none) :
    store.Effect (.create value key) (store.create value key).2 where
  toWrite := write_create value new
  value := by
    rw [create, new]
    exact (read_put _ _ _ _).trans (if_pos rfl)
  keys name := by
    rw [create, new]
    cases key with
    | none => rfl
    | some key =>
      change (store.keys.insert key store.supply.next).find? name = _
      rw [Table.find?_insert]
      simp [StoreOp.key?, StoreOp.target]

lemma checkWritable_of_ok {α : Type} {rest : Except StoreError α} {result : α}
    (done : (do store.checkWritable id; rest) = .ok result) : store.checkWritable id = .ok () := by
  rcases store.checkWritable_cases id with free | locked
  · exact free
  · rw [locked] at done
    cases done

/-- An update that is not refused takes effect. -/
lemma update_effect {patch : Json} (done : store.update id patch = .ok (answer, after)) :
    store.Effect (.update id patch) after := by
  obtain ⟨current, found, -, rfl⟩ := update_ok done
  refine ⟨write_put _ (.inl ⟨rfl, by simp [StoreOp.target, found]⟩) rfl, ?_, fun _ => rfl⟩
  rw [StoreOp.target, read_put, if_pos rfl, found]
  rfl

/-- A push that is not refused takes effect. -/
lemma push_effect {field : String} {item : Json}
    (done : store.push id field item = .ok (answer, after)) :
    store.Effect (.push id field item) after := by
  obtain ⟨current, items, found, listed, rfl⟩ := push_ok done
  refine ⟨write_put _ (.inl ⟨rfl, by simp [StoreOp.target, found]⟩) rfl, ?_, fun _ => rfl⟩
  rw [StoreOp.target, read_put, if_pos rfl, found, listIn_eq listed]
  rfl

/-- A delete that finds its object takes effect. -/
lemma delete_effect (there : store.objects.contains id = true) :
    store.Effect (.delete id) ({ store with objects := store.objects.erase id }.wrote id .null) :=
  ⟨write_erase there, (Table.find?_erase _ _ _).trans (if_pos rfl), fun _ => rfl⟩

/-- What a delete answers that is not refused. -/
lemma delete_answer (done : store.delete id = .ok (answer, after)) :
    answer = .record [("id", .id id), ("deleted", .bool (store.objects.contains id))] := by
  have free := checkWritable_of_ok done
  simp only [delete, free, bind, Except.bind, pure, Except.pure] at done
  cases done
  rfl

/-- What a create tells of its effect. -/
lemma tookEffect_create {value : Json} {key : Option String} (id : Id) (made : Bool) :
    (StoreOp.create value key).tookEffect
      (.record [("id", .id id), ("created", .bool made)]) = made := by
  rw [StoreOp.tookEffect, Json.record, Json.field?_obj, Assoc.find?_ofList]
  cases made <;> rfl

/-- What a delete tells of its effect. -/
lemma tookEffect_delete (id : Id) (there : Bool) : (StoreOp.delete id).tookEffect
    (.record [("id", .id id), ("deleted", .bool there)]) = there := by
  rw [StoreOp.tookEffect, Json.record, Json.field?_obj, Assoc.find?_ofList]
  cases there <;> rfl

/-! ### All operations -/

lemma execute_ok (done : (store.execute op).1 = .ok answer) :
    store.apply op = .ok (answer, (store.execute op).2) := by
  unfold execute at done ⊢
  cases ran : store.apply op with
  | error cause =>
    rw [ran] at done
    cases done
  | ok pair =>
    rw [ran] at done
    cases done
    rfl

lemma execute_error {cause : StoreError} (refused : (store.execute op).1 = .error cause) :
    (store.execute op).2 = store := by
  unfold execute at refused ⊢
  cases ran : store.apply op with
  | error cause => rfl
  | ok pair =>
    rw [ran] at refused
    cases refused

/-- An operation that is not refused takes effect, or it finds nothing to do and does nothing;
its answer tells which. -/
lemma apply_cases (done : store.apply op = .ok (answer, after)) :
    (op.tookEffect answer = true ∧ ¬op.FindsNothing store ∧ store.Effect op after) ∨
      (op.tookEffect answer = false ∧ op.FindsNothing store ∧ after = store) := by
  cases op with
  | create value key =>
    have made : store.create value key = (answer, after) := Except.ok.inj done
    cases led : store.keyed? key with
    | none =>
      have effect := create_effect value led
      rw [made] at effect
      rw [create, led] at made
      refine .inl ⟨(Prod.mk.inj made).1 ▸ tookEffect_create _ _, ?_, effect⟩
      rintro ⟨name, id, same, found, there⟩
      rw [keyed?_eq_some.2 ⟨name, same, found, there⟩] at led
      cases led
    -- the key leads to an object: that is the answer, and nothing is made
    | some id =>
      obtain ⟨name, same, found, there⟩ := keyed?_eq_some.1 led
      rw [create, led] at made
      obtain ⟨rfl, rfl⟩ := Prod.mk.inj made
      exact .inr ⟨tookEffect_create _ _, ⟨name, id, same, found, there⟩, rfl⟩
  | update id patch => exact .inl ⟨rfl, not_false, update_effect done⟩
  | push id field item => exact .inl ⟨rfl, not_false, push_effect done⟩
  | delete id =>
    have told := delete_answer done
    have result := delete_ok done
    subst told
    rw [tookEffect_delete]
    -- only the delete of an object that is there counts
    by_cases there : store.objects.contains id = true
    · rw [if_pos there] at result
      refine .inl ⟨there, fun missing => ?_, result ▸ delete_effect there⟩
      have missing : store.objects.find? id = none := missing
      rw [Table.contains, missing] at there
      cases there
    · rw [if_neg there] at result
      have missing := Bool.eq_false_iff.2 there
      exact .inr ⟨missing, Table.find?_of_not_contains missing, result⟩

/-- An operation that is not refused names no protected object. -/
lemma target_free (fresh : store.supply.next ∉ store.locked)
    (done : store.apply op = .ok (answer, after)) : op.target store.supply.next ∉ store.locked := by
  cases op with
  | create value key => exact fresh
  | update id patch => exact locked_of_checkWritable (checkWritable_of_ok done)
  | delete id => exact locked_of_checkWritable (checkWritable_of_ok done)
  | push id field item => exact locked_of_checkWritable (checkWritable_of_ok done)

/-- An operation takes effect as a whole or not at all. -/
theorem execute_atomic (op : StoreOp) (fresh : store.supply.next ∉ store.locked) :
    store.Atomic op where
  refused _ := execute_error
  idle answer done none := by
    rcases apply_cases (execute_ok done) with ⟨some, -⟩ | ⟨-, -, same⟩
    · rw [none] at some
      cases some
    · exact same
  effect answer done some := by
    rcases apply_cases (execute_ok done) with ⟨-, -, effect⟩ | ⟨none, -⟩
    · exact effect
    · rw [some] at none
      cases none
  free answer done _ := target_free fresh (execute_ok done)
  guarded id locked := by
    cases done : (store.execute op).1 with
    | error cause => rw [execute_error done]
    | ok answer =>
      rcases apply_cases (execute_ok done) with ⟨-, -, effect⟩ | ⟨-, -, same⟩
      · refine effect.read_other id fun eq => ?_
        exact target_free fresh (execute_ok done) (eq ▸ locked)
      · rw [same]
  nothing answer done := by
    rcases apply_cases (execute_ok done) with ⟨some, busy, -⟩ | ⟨none, finds, -⟩
    · simp [some, busy]
    · simp [none, finds]

/-! ## Any number of operations -/

/-- What can be done with a store. -/
inductive Deed where
  /-- Carry out an operation. -/
  | execute (op : StoreOp)
  /-- Refuse all further writes to an object. -/
  | protect (id : Id)
  /-- Add a listener to an object. -/
  | subscribe (object : Id) (listener : Listener)
  /-- Take a listener off. -/
  | unsubscribe (token : Nat)
  /-- Make the calls that are queued. -/
  | makeCalls

namespace Deed

/-- The store after something was done with it. -/
def run (store : Store) : Deed → Store
  | .execute op => (store.execute op).2
  | .protect id => store.protect id
  | .subscribe object listener => (store.subscribe object listener).2
  | .unsubscribe token => store.unsubscribe token
  | .makeCalls => { store with calls := [] }

/-- The object on which an operation takes effect, by its answer. -/
def effect? (store : Store) : Deed → Option Id
  | .execute op =>
    match (store.execute op).1 with
    | .ok answer => if op.tookEffect answer then some (op.target store.supply.next) else none
    | .error _ => none
  | _ => none

end Deed

/-- The store after some things were done with it, one after the other. -/
def runAll (store : Store) (deeds : List Deed) : Store := deeds.foldl Deed.run store

/-- The objects on which operations take effect, in order, one for each time. -/
def effects (store : Store) : List Deed → List Id
  | [] => []
  | deed :: rest => (deed.effect? store).toList ++ effects (deed.run store) rest

/-- What is done with a store counts as one write to the object on which it takes effect. -/
lemma writeCount_run (store : Store) (deed : Deed) (id : Id) : (deed.run store).writeCount id =
    store.writeCount id + (deed.effect? store).toList.count id := by
  cases deed with
  | execute op =>
    cases done : (store.execute op).1 with
    | error cause => simp [Deed.run, Deed.effect?, execute_error done, done]
    | ok answer =>
      rcases apply_cases (execute_ok done) with ⟨some, -, effect⟩ | ⟨none, -, same⟩
      · have effective : (Deed.execute op).effect? store = Option.some (op.target store.supply.next) := by
          simp only [Deed.effect?, done, some, if_true]
        rw [Deed.run, effect.count, effective, Option.toList_some, List.count_singleton]
        simp only [beq_iff_eq, @eq_comm _ id]
      · simp [Deed.run, Deed.effect?, done, none, same]
  | protect | subscribe | unsubscribe | makeCalls => rfl

/-- The write count of an object grows by one for each operation that takes effect on it. -/
theorem writeCount_runAll (store : Store) (deeds : List Deed) (id : Id) :
    (store.runAll deeds).writeCount id = store.writeCount id + (store.effects deeds).count id := by
  induction deeds generalizing store with
  | nil => rfl
  | cons deed rest ih =>
    rw [runAll, List.foldl_cons, ← runAll, ih, writeCount_run, effects, List.count_append,
      Nat.add_assoc]

end Store

end Troupe
