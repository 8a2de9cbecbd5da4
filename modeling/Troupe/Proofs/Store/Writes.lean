import Mathlib.Tactic.ByContra
import Mathlib.Tactic.Lemma
import Troupe.Store.Basic

/-!
# Writes to a store

A store operation either leaves the store as it is or writes exactly one object.
`Store.Write` says what one write does: the object's count goes up by one, its listeners are
called with the new value, and every other object stays.  `Store.Grows` is what any number of
writes come to: an object whose count has not moved is untouched, and new ones come from the
supply.  `Store.Advances` adds that nobody begins or ceases to listen, `Store.CallsListeners` that
the listeners of an object whose count has moved are called.  `Store.Since` allows for objects that
were protected meanwhile.

## Main results

* `Store.execute_cases`: an operation is one write or nothing;
* `Store.execute_callsListeners`: whatever it does, the store advances and its listeners are called.
-/

namespace Troupe

namespace Supply

/-- The identifiers that were handed out are all different. -/
def Fresh (supply : Supply) : Prop :=
  ∀ i j, i < supply.made → j < supply.made → supply.mint i = supply.mint j → i = j

/-- The same supply, later. -/
structure Leads (before after : Supply) : Prop where
  /-- The identifiers are the same, -/
  mint : after.mint = before.mint
  /-- and those handed out stay handed out. -/
  made : before.made ≤ after.made

protected lemma Leads.refl (supply : Supply) : supply.Leads supply := ⟨rfl, Nat.le_refl _⟩

protected lemma Leads.trans {before middle after : Supply} (first : before.Leads middle)
    (second : middle.Leads after) : before.Leads after :=
  ⟨second.mint.trans first.mint, Nat.le_trans first.made second.made⟩

lemma leads_advance (supply : Supply) : supply.Leads supply.advance := ⟨rfl, Nat.le_succ _⟩

lemma Fresh.of_leads {before after : Supply} (fresh : after.Fresh) (leads : before.Leads after) :
    before.Fresh := by
  intro i j hi hj same
  rw [← leads.mint] at same
  exact fresh i j (Nat.lt_of_lt_of_le hi leads.made) (Nat.lt_of_lt_of_le hj leads.made) same

/-- An identifier that is about to be handed out is none of those that were. -/
lemma Fresh.ne_next {supply : Supply} (fresh : supply.advance.Fresh) {n : Nat}
    (lt : n < supply.made) : supply.mint n ≠ supply.next := by
  intro same
  have eq := fresh n supply.made (Nat.lt_succ_of_lt lt) (Nat.lt_succ_self _) same
  omega

/-- An identifier that was handed out. -/
def Minted (supply : Supply) (id : Id) : Prop := ∃ n, n < supply.made ∧ supply.mint n = id

/-- An identifier that was handed out between two times. -/
def Mints (before after : Supply) (id : Id) : Prop :=
  ∃ n, before.made ≤ n ∧ n < after.made ∧ after.mint n = id

lemma Mints.minted {before after : Supply} {id : Id} (mints : before.Mints after id) :
    after.Minted id := by
  obtain ⟨n, -, lt, same⟩ := mints
  exact ⟨n, lt, same⟩

lemma Mints.of_leads_left {before middle after : Supply} {id : Id} (leads : before.Leads middle)
    (mints : middle.Mints after id) : before.Mints after id := by
  obtain ⟨n, le, lt, same⟩ := mints
  exact ⟨n, Nat.le_trans leads.made le, lt, same⟩

lemma Mints.of_leads_right {before middle after : Supply} {id : Id} (mints : before.Mints middle id)
    (leads : middle.Leads after) : before.Mints after id := by
  obtain ⟨n, le, lt, same⟩ := mints
  exact ⟨n, le, Nat.lt_of_lt_of_le lt leads.made, (congrFun leads.mint n).trans same⟩

lemma mints_next (supply : Supply) : supply.Mints supply.advance supply.next :=
  ⟨supply.made, Nat.le_refl _, Nat.lt_succ_self _, rfl⟩

lemma minted_next (supply : Supply) : supply.advance.Minted supply.next :=
  ⟨supply.made, Nat.lt_succ_self _, rfl⟩

lemma Minted.of_leads {before after : Supply} {id : Id} (minted : before.Minted id)
    (leads : before.Leads after) : after.Minted id := by
  obtain ⟨n, lt, rfl⟩ := minted
  exact ⟨n, Nat.lt_of_lt_of_le lt leads.made, congrFun leads.mint n⟩

lemma Minted.ne_next {supply : Supply} {id : Id} (minted : supply.Minted id)
    (fresh : supply.advance.Fresh) : id ≠ supply.next := by
  obtain ⟨n, lt, rfl⟩ := minted
  exact fresh.ne_next lt

end Supply

namespace Store

variable {store before middle after : Store} {id other : Id}

/-! ## One write -/

/-- `after` is `before` with one write to `id`. -/
structure Write (before : Store) (id : Id) (after : Store) : Prop where
  /-- Other objects stay. -/
  read_other : ∀ other, other ≠ id → after.read other = before.read other
  /-- The write is counted. -/
  count : ∀ other, after.writeCount other = before.writeCount other + if other = id then 1 else 0
  /-- The listeners of the object are called, in order, with its new value. -/
  calls : after.calls = before.calls ++
    (before.listeners id).map fun listener => ⟨listener, id, (after.read id).getD .null⟩
  /-- Nothing else changes: listeners, -/
  watches : after.watches = before.watches
  /-- tokens, -/
  nextToken : after.nextToken = before.nextToken
  /-- and protection. -/
  locked : after.locked = before.locked
  /-- The object was there, or it is a new one from the supply. -/
  origin : (after.supply = before.supply ∧ (before.read id).isSome) ∨
    (id = before.supply.next ∧ after.supply = before.supply.advance)

lemma writeCount_wrote (store : Store) (id other : Id) (value : Json) :
    (store.wrote id value).writeCount other =
      store.writeCount other + if other = id then 1 else 0 := by
  simp only [writeCount, wrote, Table.find?_insert]
  by_cases same : id = other
  · subst same
    simp
  · simp [same, Ne.symm same]

lemma read_put (store : Store) (id other : Id) (value : Json) :
    (store.put id value).read other = if id = other then some value else store.read other :=
  Table.find?_insert _ _ _ _

lemma writeCount_put (store : Store) (id other : Id) (value : Json) :
    (store.put id value).writeCount other =
      store.writeCount other + if other = id then 1 else 0 :=
  writeCount_wrote { store with objects := store.objects.insert id value } id other value

/-- Putting a value is a write. -/
lemma write_put (value : Json)
    (origin : (store.supply = before.supply ∧ (before.read id).isSome) ∨
      (id = before.supply.next ∧ store.supply = before.supply.advance))
    (same : store = { before with keys := store.keys, supply := store.supply }) :
    before.Write id (store.put id value) := by
  rw [same]
  refine ⟨fun other ne => ?_, fun other => ?_, ?_, rfl, rfl, rfl, origin⟩
  · rw [read_put, if_neg (Ne.symm ne)]
    rfl
  · rw [writeCount_put]
    rfl
  · have value_eq : (store.put id value).read id = some value := by rw [read_put, if_pos rfl]
    rw [same] at value_eq
    rw [value_eq]
    rfl

/-- A create without a key that leads to an object makes a new one. -/
lemma write_create {key : Option String} (value : Json) (new : store.keyed? key = none) :
    store.Write store.supply.next (store.create value key).2 := by
  simp only [create, new]
  exact write_put value (.inr ⟨rfl, rfl⟩) rfl

lemma checkWritable_cases (store : Store) (id : Id) :
    store.checkWritable id = .ok () ∨ store.checkWritable id = .error (.writeProtected id) := by
  unfold checkWritable
  split
  · exact .inr rfl
  · exact .inl rfl

/-- What a successful update does. -/
lemma update_ok {patch answer : Json} (done : store.update id patch = .ok (answer, after)) :
    ∃ current, store.read id = some current ∧ patch.isObject ∧
      after = store.put id (current.merge patch) := by
  rcases store.checkWritable_cases id with free | locked
  · simp only [update, free, bind, Except.bind, pure, Except.pure] at done
    split at done
    · cases done
    · split at done
      · cases done
      · rename_i object _ current found
        cases done
        exact ⟨current, found, by simpa using object, rfl⟩
  · simp only [update, locked, bind, Except.bind] at done
    cases done

/-- An object that is there and not protected can be updated. -/
lemma update_of_writable {current patch : Json} (found : store.read id = some current)
    (free : id ∉ store.locked) (record : patch.isObject = true) :
    store.update id patch =
      .ok (.record [("id", .id id), ("updated", .bool true)], store.put id (current.merge patch)) := by
  have writable : store.checkWritable id = .ok () := by
    rw [checkWritable, if_neg (by simpa using free)]
  simp only [update, writable, record, found, bind, Except.bind, pure, Except.pure]
  rfl

/-- What a successful push does. -/
lemma push_ok {field : String} {item answer : Json}
    (done : store.push id field item = .ok (answer, after)) :
    ∃ current items, store.read id = some current ∧ listIn id current field = .ok items ∧
      after = store.put id (current.setField field (.arr (items ++ [item]))) := by
  rcases store.checkWritable_cases id with free | locked
  · simp only [push, free, bind, Except.bind, pure, Except.pure] at done
    split at done
    · cases done
    · rename_i current found
      split at done
      · cases done
      · rename_i items listed
        cases done
        exact ⟨current, items, found, listed, rfl⟩
  · simp only [push, locked, bind, Except.bind] at done
    cases done

/-- What a successful delete does. -/
lemma delete_ok {answer : Json} (done : store.delete id = .ok (answer, after)) :
    after = if store.objects.contains id then
      { store with objects := store.objects.erase id }.wrote id .null else store := by
  rcases store.checkWritable_cases id with free | locked
  · simp only [delete, free, bind, Except.bind, pure, Except.pure] at done
    cases done
    rfl
  · simp only [delete, locked, bind, Except.bind] at done
    cases done

lemma write_erase (there : store.objects.contains id = true) :
    store.Write id ({ store with objects := store.objects.erase id }.wrote id .null) := by
  have read_eq : ∀ other, ({ store with objects := store.objects.erase id }.wrote id .null).read other
      = if id = other then none else store.read other :=
    fun other => Table.find?_erase _ _ _
  refine ⟨fun other ne => ?_, fun other => writeCount_wrote _ _ _ _, ?_, rfl, rfl, rfl,
    .inl ⟨rfl, there⟩⟩
  · rw [read_eq, if_neg (Ne.symm ne)]
  · rw [read_eq, if_pos rfl]
    rfl

/-- A delete writes no object but the one that it names. -/
lemma eq_of_written?_delete {object : Id} (written : store.written? (.delete object) = some id) :
    id = object := by
  unfold written? at written
  split at written
  · cases written
  · dsimp only at written
    split at written
    · exact (Option.some.inj written).symm
    · cases written

/-- An operation is one write, of the object that `written?` names, or it does nothing. -/
theorem execute_cases (store : Store) (op : StoreOp) :
    (store.written? op = none ∧ (store.execute op).2 = store) ∨
      ∃ id, store.written? op = some id ∧ store.Write id (store.execute op).2 := by
  cases ran : store.apply op with
  | error cause => exact .inl ⟨by simp [written?, ran], by simp [execute, ran]⟩
  | ok done =>
    obtain ⟨answer, after⟩ := done
    have result : (store.execute op).2 = after := by simp [execute, ran]
    rw [result]
    cases op with
    | create value key =>
      have after_eq : after = (store.create value key).2 :=
        (congrArg Prod.snd (Except.ok.inj ran)).symm
      subst after_eq
      cases found : store.keyed? key with
      | some id => exact .inl ⟨by simp [written?, apply, found], by simp [create, found]⟩
      | none => exact .inr ⟨_, by simp [written?, apply, found], write_create value found⟩
    | update id patch =>
      obtain ⟨current, found, -, rfl⟩ := update_ok ran
      exact .inr ⟨id, by simp [written?, ran], write_put _ (.inl ⟨rfl, by simp [found]⟩) rfl⟩
    | delete id =>
      have after_eq := delete_ok ran
      by_cases there : store.objects.contains id = true
      · rw [if_pos there] at after_eq
        subst after_eq
        exact .inr ⟨id, by simp [written?, ran, there], write_erase there⟩
      · rw [if_neg there] at after_eq
        exact .inl ⟨by simp [written?, ran, there], after_eq⟩
    | push id field item =>
      obtain ⟨current, items, found, -, rfl⟩ := push_ok ran
      exact .inr ⟨id, by simp [written?, ran], write_put _ (.inl ⟨rfl, by simp [found]⟩) rfl⟩

/-! ## Any number of writes -/

/-- All objects that `after` has and `before` has not come from the supply. -/
structure Supplies (before after : Store) : Prop where
  /-- New identifiers come from the same supply, -/
  supply : before.supply.Leads after.supply
  /-- and new objects have them. -/
  origin : ∀ id, (after.read id).isSome →
    (before.read id).isSome ∨ before.supply.Mints after.supply id

/-- `after` is `before` after any number of writes, whoever listens. -/
structure Grows (before after : Store) : Prop extends Supplies before after where
  /-- Counts do not go down. -/
  count_le : ∀ id, before.writeCount id ≤ after.writeCount id
  /-- An object that was not written is as it was. -/
  read_eq : ∀ id, after.writeCount id = before.writeCount id → after.read id = before.read id
  /-- Protection stays. -/
  locked : after.locked = before.locked

/-- `after` is `before` after any number of writes, and objects may have been protected
meanwhile. -/
structure Since (before after : Store) : Prop extends Supplies before after where
  /-- Counts do not go down. -/
  count_le : ∀ id, before.writeCount id ≤ after.writeCount id
  /-- An object that was not written is as it was. -/
  read_eq : ∀ id, after.writeCount id = before.writeCount id → after.read id = before.read id
  /-- What is protected stays so. -/
  locked : ∀ id, id ∈ before.locked → id ∈ after.locked

/-- `after` is `before` after any number of writes, whatever calls were made for them. -/
structure Advances (before after : Store) : Prop extends Grows before after where
  /-- Listeners stay, -/
  watches : after.watches = before.watches
  /-- and so do tokens. -/
  nextToken : after.nextToken = before.nextToken

/-- `after` is `before` after any number of writes, and the calls of their listeners are queued. -/
structure CallsListeners (before after : Store) : Prop extends Advances before after where
  /-- The listeners of an object that was written are called. -/
  calls : ∃ new, after.calls = before.calls ++ new ∧
    ∀ id, after.writeCount id ≠ before.writeCount id →
      ∀ listener ∈ before.listeners id, listener ∈ new.map Call.listener

lemma listeners_congr (watches : after.watches = before.watches) (id : Id) :
    after.listeners id = before.listeners id := by rw [listeners, listeners, watches]

namespace Supplies

/-- Nothing is new. -/
lemma of_eq (supply : after.supply = before.supply) (reads : after.read = before.read) :
    before.Supplies after where
  supply := supply ▸ .refl _
  origin _ there := .inl (reads ▸ there)

protected lemma refl (store : Store) : store.Supplies store := .of_eq rfl rfl

protected lemma trans (first : before.Supplies middle) (second : middle.Supplies after) :
    before.Supplies after where
  supply := first.supply.trans second.supply
  origin id there := by
    rcases second.origin id there with early | new
    · exact (first.origin id early).imp_right fun new => new.of_leads_right second.supply
    · exact .inr (new.of_leads_left first.supply)

end Supplies

namespace Grows

protected lemma refl (store : Store) : store.Grows store :=
  ⟨.refl store, fun _ => Nat.le_refl _, fun _ _ => rfl, rfl⟩

protected lemma trans (first : before.Grows middle) (second : middle.Grows after) :
    before.Grows after where
  toSupplies := first.toSupplies.trans second.toSupplies
  count_le id := Nat.le_trans (first.count_le id) (second.count_le id)
  read_eq id same := by
    have le₁ := first.count_le id
    have le₂ := second.count_le id
    rw [second.read_eq id (by omega), first.read_eq id (by omega)]
  locked := second.locked.trans first.locked

end Grows

namespace Since

/-- No object changes. -/
lemma of_eq (objects : after.objects = before.objects) (writes : after.writes = before.writes)
    (supply : after.supply = before.supply) (locked : ∀ id, id ∈ before.locked → id ∈ after.locked) :
    before.Since after where
  toSupplies := .of_eq supply (funext fun id => by rw [read, read, objects])
  count_le id := Nat.le_of_eq (by rw [writeCount, writeCount, writes])
  read_eq id _ := by rw [read, read, objects]
  locked := locked

protected lemma refl (store : Store) : store.Since store := .of_eq rfl rfl rfl fun _ => id

protected lemma trans (first : before.Since middle) (second : middle.Since after) :
    before.Since after where
  toSupplies := first.toSupplies.trans second.toSupplies
  count_le id := Nat.le_trans (first.count_le id) (second.count_le id)
  read_eq id same := by
    have le₁ := first.count_le id
    have le₂ := second.count_le id
    rw [second.read_eq id (by omega), first.read_eq id (by omega)]
  locked id mem := second.locked id (first.locked id mem)

end Since

lemma Grows.since (grows : before.Grows after) : before.Since after :=
  ⟨grows.toSupplies, grows.count_le, grows.read_eq, fun _ mem => grows.locked ▸ mem⟩

namespace Advances

protected lemma refl (store : Store) : store.Advances store := ⟨.refl store, rfl, rfl⟩

protected lemma trans (first : before.Advances middle) (second : middle.Advances after) :
    before.Advances after :=
  ⟨first.toGrows.trans second.toGrows, second.watches.trans first.watches,
    second.nextToken.trans first.nextToken⟩

/-- Making the queued calls changes no object. -/
lemma clear (advances : before.Advances after) : before.Advances { after with calls := [] } :=
  ⟨⟨⟨advances.supply, advances.origin⟩, advances.count_le, advances.read_eq, advances.locked⟩,
    advances.watches, advances.nextToken⟩

end Advances

namespace CallsListeners

protected lemma refl (store : Store) : store.CallsListeners store :=
  ⟨.refl store, [], by simp⟩

protected lemma trans (first : before.CallsListeners middle)
    (second : middle.CallsListeners after) : before.CallsListeners after := by
  refine ⟨first.toAdvances.trans second.toAdvances, ?_⟩
  obtain ⟨new₁, calls₁, told₁⟩ := first.calls
  obtain ⟨new₂, calls₂, told₂⟩ := second.calls
  refine ⟨new₁ ++ new₂, by rw [calls₂, calls₁, List.append_assoc], fun id changed l mem => ?_⟩
  rw [List.map_append, List.mem_append]
  -- the object was written in the first part or in the second
  by_cases early : middle.writeCount id = before.writeCount id
  · exact .inr (told₂ id (by omega) l (by rwa [listeners_congr first.watches]))
  · exact .inl (told₁ id early l mem)

end CallsListeners

lemma Write.advances (write : before.Write id after) : before.Advances after where
  count_le other := by rw [write.count]; omega
  read_eq other same := by
    refine write.read_other other fun eq => ?_
    rw [write.count, if_pos eq] at same
    omega
  watches := write.watches
  nextToken := write.nextToken
  locked := write.locked
  supply := by
    rcases write.origin with ⟨supply, -⟩ | ⟨-, supply⟩ <;> rw [supply]
    · exact .refl _
    · exact before.supply.leads_advance
  origin other there := by
    by_cases same : other = id
    · subst same
      rcases write.origin with ⟨-, there⟩ | ⟨next, supply⟩
      · exact .inl there
      · exact .inr (next ▸ supply ▸ before.supply.mints_next)
    · exact .inl (write.read_other other same ▸ there)

lemma Write.callsListeners (write : before.Write id after) : before.CallsListeners after := by
  refine ⟨write.advances, _, write.calls, fun other changed listener mem => ?_⟩
  have eq : other = id := by
    by_contra ne
    exact changed (by rw [write.count, if_neg ne, Nat.add_zero])
  subst eq
  simpa [Function.comp_def] using mem

lemma execute_callsListeners (store : Store) (op : StoreOp) :
    store.CallsListeners (store.execute op).2 := by
  rcases store.execute_cases op with ⟨-, same⟩ | ⟨id, -, write⟩
  · rw [same]
    exact .refl store
  · exact write.callsListeners

end Store

end Troupe
