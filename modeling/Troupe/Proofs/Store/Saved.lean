import Troupe.Proofs.Except
import Troupe.Proofs.Records

/-!
# Going on with a store that was saved

What a store answers depends on its objects, its keys, what it protects and its supply of
identifiers, and on nothing else that it keeps: counts of writes, listeners and calls do not
matter.  `Store.Alike` relates stores that agree in this.  A saved store lacks only protection of
what it had, so one that protects nothing goes on as if it had never been saved.

## Main results

* `Store.Alike.executeAll`: stores that agree answer any operations alike and go on agreeing;
* `Store.reload?_of_ofText?`: a store whose image reads as it was written is loaded from it;
* `records_survive`: every record reads as it was written, and a saved store goes on as it was.
-/

namespace Troupe

namespace Store

/-- Carry out operations, one after the other: the answers, and the store in the end. -/
def executeAll (store : Store) : List StoreOp → List (Except StoreError Json) × Store
  | [] => ([], store)
  | op :: rest =>
    let next := store.execute op
    let last := next.2.executeAll rest
    (next.1 :: last.1, last.2)

/-- The stores have the same objects, keys, protection and supply. -/
structure Alike (a b : Store) : Prop where
  /-- They hold the same objects under the same identifiers, -/
  objects : a.objects = b.objects
  /-- their keys lead to the same objects, -/
  keys : a.keys = b.keys
  /-- they protect the same objects, -/
  locked : a.locked = b.locked
  /-- and they hand out the same identifiers next. -/
  supply : a.supply = b.supply

/-- Outcomes of an operation that agree: the same answer with stores that agree, or the same
refusal. -/
def Agree : Except StoreError (Json × Store) → Except StoreError (Json × Store) → Prop
  | .ok (answer, a), .ok (other, b) => answer = other ∧ a.Alike b
  | .error cause, .error other => cause = other
  | _, _ => False

namespace Alike

variable {a b : Store}

lemma read (alike : a.Alike b) (id : Id) : a.read id = b.read id := by
  rw [Store.read, Store.read, alike.objects]

lemma keyed? (alike : a.Alike b) (key : Option String) : a.keyed? key = b.keyed? key := by
  rw [Store.keyed?, Store.keyed?, alike.keys, alike.objects]

lemma checkWritable (alike : a.Alike b) (id : Id) : a.checkWritable id = b.checkWritable id := by
  rw [Store.checkWritable, Store.checkWritable, alike.locked]

lemma put (alike : a.Alike b) (id : Id) (value : Json) :
    (a.put id value).Alike (b.put id value) where
  objects := congrArg (fun objects : Table Id Json => objects.insert id value) alike.objects
  keys := alike.keys
  locked := alike.locked
  supply := alike.supply

lemma create (alike : a.Alike b) (value : Json) (key : Option String) :
    Agree (.ok (a.create value key)) (.ok (b.create value key)) := by
  rw [Store.create, Store.create, alike.keyed?]
  cases b.keyed? key with
  | some id => exact ⟨rfl, alike⟩
  | none =>
    have made (keys : Table String Id) (supply : Supply) :
        Alike { a with keys := keys, supply := supply } { b with keys := keys, supply := supply } :=
      ⟨alike.objects, rfl, alike.locked, rfl⟩
    simp only [alike.supply, alike.keys]
    exact ⟨rfl, (made _ _).put b.supply.next value⟩

lemma update (alike : a.Alike b) (id : Id) (patch : Json) :
    Agree (a.update id patch) (b.update id patch) := by
  rw [Store.update, Store.update, alike.checkWritable, alike.read]
  cases b.checkWritable id with
  | error cause => rfl
  | ok =>
    cases patch.isObject with
    | false => rfl
    | true =>
      cases b.read id with
      | none => rfl
      | some current => exact ⟨rfl, alike.put id _⟩

lemma delete (alike : a.Alike b) (id : Id) : Agree (a.delete id) (b.delete id) := by
  rw [Store.delete, Store.delete, alike.checkWritable, alike.objects]
  cases b.checkWritable id with
  | error cause => rfl
  | ok =>
    refine ⟨rfl, ?_⟩
    cases b.objects.contains id with
    | false => exact alike
    | true => exact ⟨rfl, alike.keys, alike.locked, alike.supply⟩

lemma push (alike : a.Alike b) (id : Id) (field : String) (item : Json) :
    Agree (a.push id field item) (b.push id field item) := by
  rw [Store.push, Store.push, alike.checkWritable, alike.read]
  cases b.checkWritable id with
  | error cause => rfl
  | ok =>
    cases b.read id with
    | none => rfl
    | some current =>
      simp only [ok_bind_eq]
      cases listIn id current field with
      | error cause => rfl
      | ok items => exact ⟨rfl, alike.put id _⟩

lemma apply (alike : a.Alike b) (op : StoreOp) : Agree (a.apply op) (b.apply op) := by
  cases op with
  | create value key => exact alike.create value key
  | update id patch => exact alike.update id patch
  | delete id => exact alike.delete id
  | push id field item => exact alike.push id field item

/-- One operation: the answers are the same, and the stores go on agreeing. -/
lemma execute (alike : a.Alike b) (op : StoreOp) :
    (a.execute op).1 = (b.execute op).1 ∧ (a.execute op).2.Alike (b.execute op).2 := by
  have agree := alike.apply op
  unfold Store.execute
  cases left : a.apply op with
  | error cause =>
    cases right : b.apply op with
    | error other =>
      rw [left, right] at agree
      exact ⟨congrArg Except.error agree, alike⟩
    | ok outcome =>
      rw [left, right] at agree
      exact agree.elim
  | ok outcome =>
    cases right : b.apply op with
    | error other =>
      rw [left, right] at agree
      exact agree.elim
    | ok other =>
      rw [left, right] at agree
      exact ⟨congrArg Except.ok agree.1, agree.2⟩

/-- Any operations: the answers are the same, and the stores go on agreeing. -/
theorem executeAll (alike : a.Alike b) (ops : List StoreOp) :
    (a.executeAll ops).1 = (b.executeAll ops).1 ∧
      (a.executeAll ops).2.Alike (b.executeAll ops).2 := by
  induction ops generalizing a b with
  | nil => exact ⟨rfl, alike⟩
  | cons op rest ih =>
    obtain ⟨answer, next⟩ := alike.execute op
    obtain ⟨answers, last⟩ := ih next
    refine ⟨?_, last⟩
    rw [Store.executeAll, Store.executeAll]
    exact congrArg₂ List.cons answer answers

end Alike

/-- A store whose image reads as it was written is loaded from it, with its objects, its keys and
its supply of identifiers, and without protection. -/
theorem reload?_of_ofText? {store : Store}
    (inverse : Json.ofText? store.image.text = some store.image.toJson) :
    ∃ loaded, store.reload? = some loaded ∧ loaded.objects = store.objects ∧
      loaded.keys = store.keys ∧ loaded.locked = [] ∧ loaded.supply = store.supply := by
  have read : StoreImage.ofText? store.image.text = some store.image := by
    rw [StoreImage.ofText?, inverse, Option.bind_some, StoreImage.ofJson?_toJson]
  refine ⟨{ ofImage store.supply store.image with nextToken := store.nextToken }, ?_, rfl, rfl,
    rfl, rfl⟩
  rw [reload?, read, Option.map_some]

end Store

/-- Every record reads as it was written.  So if the text of a store's image does, the store is
loaded from it with the same objects under the same identifiers and the same keys; and if it
protects nothing, it answers all operations that follow as if it had not been saved, and they leave
the same objects and keys. -/
theorem records_survive :
    (∀ message : Message, Message.ofJson? message.toJson = some message.plain) ∧
    (∀ entry : Entry, Entry.ofJson? entry.toJson = some entry) ∧
    (∀ config : ActorConfig, ActorConfig.ofJson? config.toJson = some config) ∧
    (∀ spec : ActorSpec, ActorSpec.ofJson? spec.toJson = some spec) ∧
    (∀ config : Config, Config.ofJson? config.toJson = some config) ∧
    (∀ op : StoreOp, StoreOp.ofJson? op.toJson = some op) ∧
    (∀ image : StoreImage, StoreImage.ofJson? image.toJson = some image) ∧
    ∀ store : Store, Json.ofText? store.image.text = some store.image.toJson →
      ∃ loaded, store.reload? = some loaded ∧ loaded.objects = store.objects ∧
        loaded.keys = store.keys ∧
        (store.locked = [] → ∀ ops : List StoreOp,
          (loaded.executeAll ops).1 = (store.executeAll ops).1 ∧
          (loaded.executeAll ops).2.objects = (store.executeAll ops).2.objects ∧
          (loaded.executeAll ops).2.keys = (store.executeAll ops).2.keys) := by
  refine ⟨Message.ofJson?_toJson, Entry.ofJson?_toJson, ActorConfig.ofJson?_toJson,
    ActorSpec.ofJson?_toJson, Config.ofJson?_toJson, StoreOp.ofJson?_toJson,
    StoreImage.ofJson?_toJson, fun store inverse => ?_⟩
  obtain ⟨loaded, reloaded, objects, keys, free, supply⟩ := Store.reload?_of_ofText? inverse
  refine ⟨loaded, reloaded, objects, keys, fun unlocked ops => ?_⟩
  have alike : loaded.Alike store := ⟨objects, keys, free.trans unlocked.symm, supply⟩
  obtain ⟨answers, last⟩ := alike.executeAll ops
  exact ⟨answers, last.objects, last.keys⟩

namespace Sample

/-- One object under a key, with a null in it. -/
def counter : Store :=
  { Store.empty ⟨fun n => .ofNat n, 1⟩ with
    objects := Table.ofList [(.ofNat 0, .obj [("count", .count 3), ("gone", .null)])]
    keys := Table.ofList [("first", .ofNat 0)] }

set_option maxRecDepth 20000 in
lemma counter_read : Json.ofText? counter.image.text = some counter.image.toJson := by
  have read : Json.readValue? Json.depthLimit (Json.skipBlanks counter.image.toJson.chars) =
      some (counter.image.toJson, []) := rfl
  exact Json.ofText?_of_readValue? read rfl

end Sample

/-- The key of the counter still leads to it after the store was saved and loaded, and a new object
gets the identifier that it would have had. -/
theorem records_survive_counter :
    ∃ loaded, Sample.counter.reload? = some loaded ∧
      (loaded.executeAll [.create .null (some "first"), .create .null none]).1 =
        [.ok (.record [("id", .id (.ofNat 0)), ("created", .bool false)]),
          .ok (.record [("id", .id (.ofNat 1)), ("created", .bool true)])] := by
  obtain ⟨-, -, -, -, -, -, -, stores⟩ := records_survive
  obtain ⟨loaded, reloaded, -, -, bySteps⟩ := stores Sample.counter Sample.counter_read
  obtain ⟨answers, -, -⟩ := bySteps rfl [.create .null (some "first"), .create .null none]
  exact ⟨loaded, reloaded, answers.trans rfl⟩

end Troupe
