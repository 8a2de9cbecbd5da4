import Troupe.Proofs.Json.Merging
import Troupe.Proofs.Store.Writes
import Troupe.Store.Image

/-!
# Operations carried out again

A patch that was merged has nothing left to do, and an object that was dropped cannot be dropped
again.  So an update or a delete may be carried out twice in a row, as it is when a saved
operation is replayed, and the objects of the store are as after the first time
(`Store.Replays`).

## Main results

* `Store.replays_update`, `Store.replays_delete`: what may be carried out again;
* `Store.merge_replays`: merging as specified, and what follows for the objects of a store.
-/

namespace Troupe

namespace Store

/-- Carrying out an operation twice in a row leaves the objects as doing so once. -/
def Replays (store : Store) (op : StoreOp) : Prop :=
  ((store.execute op).2.execute op).2.objects = (store.execute op).2.objects

variable {store : Store} {id : Id}

/-- An update does nothing, or it merges the patch into the object. -/
lemma execute_update (store : Store) (id : Id) (patch : Json) :
    (store.execute (.update id patch)).2 = store ∨
      ∃ current, store.read id = some current ∧
        (store.execute (.update id patch)).2 = store.put id (current.merge patch) := by
  cases ran : store.update id patch with
  | error cause => exact .inl (by rw [execute, apply, ran])
  | ok done =>
    obtain ⟨answer, after⟩ := done
    obtain ⟨current, found, -, rfl⟩ := update_ok ran
    exact .inr ⟨current, found, by rw [execute, apply, ran]⟩

/-- An update of a document may be carried out again. -/
theorem replays_update {current : Option Json.Document} (patch : Json.Document)
    (stored : store.read id = current.map Json.Document.value) :
    store.Replays (.update id patch.value) := by
  unfold Replays
  rcases store.execute_update id patch.value with same | ⟨_, found, once⟩
  · rw [same, same]
  · obtain ⟨target, -, rfl⟩ := Option.map_eq_some_iff.1 (stored.symm.trans found)
    change (store.execute _).2 = store.put id (target.merge patch).value at once
    rw [once]
    have read : (store.put id (target.merge patch).value).read id =
        some (target.merge patch).value := (read_put _ _ _ _).trans (if_pos rfl)
    rcases (store.put id (target.merge patch).value).execute_update id patch.value with
      same | ⟨merged, found', twice⟩
    · rw [same]
    · rw [read] at found'
      cases found'
      change _ = (store.put id _).put id ((target.merge patch).merge patch).value at twice
      rw [twice, Json.merge_merge]
      refine Table.ext_find? fun other => ?_
      change ((store.put _ _).put _ _).read other = (store.put _ _).read other
      rw [read_put, read_put]
      split <;> rfl

/-- A delete does nothing to the objects but to drop the one that it names. -/
lemma objects_execute_delete (store : Store) (id : Id) :
    (store.execute (.delete id)).2 = store ∨
      ((store.execute (.delete id)).2.objects = store.objects.erase id ∧
        (store.execute (.delete id)).2.objects.contains id = false) := by
  cases ran : store.delete id with
  | error cause => exact .inl (by rw [execute, apply, ran])
  | ok done =>
    obtain ⟨answer, after⟩ := done
    have result : (store.execute (.delete id)).2 = after := by rw [execute, apply, ran]
    rw [result, delete_ok ran]
    split
    · refine .inr ⟨rfl, ?_⟩
      change ((store.objects.erase id).find? id).isSome = false
      rw [Table.find?_erase, if_pos rfl]
      rfl
    · exact .inl rfl

/-- A delete may be carried out again. -/
theorem replays_delete (store : Store) (id : Id) : store.Replays (.delete id) := by
  unfold Replays
  rcases store.objects_execute_delete id with same | ⟨-, gone⟩
  · rw [same, same]
  · rcases (store.execute (.delete id)).2.objects_execute_delete id with same | ⟨again, -⟩
    · rw [same]
    · rw [again]
      refine Table.ext_find? fun other => ?_
      rw [Table.find?_erase]
      split
      · rename_i same
        subst same
        exact (Table.find?_of_not_contains gone).symm
      · rfl

/-- **A merge patch does what its specification says, and nothing when it is merged again.**  It
puts no null into an object, and carrying out an update or a delete twice in a row leaves the
objects of a store as doing so once. -/
theorem merge_replays (target patch : Json.Document) :
    (∀ result, Json.Merges target.value patch.value result ↔
      result = target.value.merge patch.value) ∧
    Json.NullsStand target.value (target.value.merge patch.value) ∧
    (target.value.merge patch.value).merge patch.value = target.value.merge patch.value ∧
    ∀ (store : Store) (id : Id),
      (∀ current : Option Json.Document, store.read id = current.map Json.Document.value →
        store.Replays (.update id patch.value)) ∧
      store.Replays (.delete id) := by
  refine ⟨fun result => Json.merges_iff target patch, ?_,
    congrArg Json.Document.value (Json.merge_merge target patch),
    fun store id => ⟨fun current => replays_update patch, store.replays_delete id⟩⟩
  exact ((Json.NoNewNull.refl target.canonical).merge patch.value).nullsStand

namespace Sample

/-- A patch that removes a field, adds an empty object, and has a null with nothing to remove. -/
def trim : Json.Document :=
  .ofParsed (.obj [("a", .obj [("b", .null), ("e", .obj [])]), ("z", .obj [("y", .null)])])

/-- A store with one object. -/
def single : Store :=
  ofImage ⟨.ofNat, 10⟩ ⟨Table.ofList [(.ofNat 2, Json.Sample.nested.value)], ∅⟩

end Sample

/-- Both a removal and a null with nothing to remove leave no null behind. -/
theorem merge_replays_trim :
    Json.Merges Json.Sample.nested.value Sample.trim.value
      (.obj [("a", .obj [("c", .bool true), ("e", .obj [])]), ("z", .obj [])]) ∧
    Sample.single.Replays (.update (.ofNat 2) Sample.trim.value) ∧
    Sample.single.Replays (.delete (.ofNat 2)) := by
  obtain ⟨merges, -, -, replays⟩ := merge_replays Json.Sample.nested Sample.trim
  obtain ⟨update, delete⟩ := replays Sample.single (.ofNat 2)
  exact ⟨(merges _).2 rfl, update (some Json.Sample.nested) rfl, delete⟩

end Store

end Troupe
