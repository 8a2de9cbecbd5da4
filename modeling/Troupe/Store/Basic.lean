import Troupe.Error
import Troupe.Json.Decode
import Troupe.Json.Patch

/-!
# The object store

A store holds JSON values under identifiers.  It creates, updates, deletes and pushes; a
create with an idempotency key that still leads to an object makes no second one.  Every
successful write is counted and told to the listeners of the object, in the order in which
they were added.  A refused operation leaves the store as it is.

Fresh identifiers come from a supply, and the calls to listeners are queued in `calls`, oldest
first, for the surroundings to make.
-/

namespace Troupe

/-- A source of identifiers: the `n`-th identifier, and how many were handed out. -/
structure Supply where
  /-- The `n`-th identifier. -/
  mint : Nat → Id
  /-- How many were handed out. -/
  made : Nat

namespace Supply

/-- The identifier that is handed out next. -/
def next (supply : Supply) : Id := supply.mint supply.made

/-- The supply after one was handed out. -/
def advance (supply : Supply) : Supply := { supply with made := supply.made + 1 }

end Supply

/-- An operation on the store. -/
inductive StoreOp where
  /-- Make an object, unless the key still leads to one. -/
  | create (value : Json) (key : Option String)
  /-- Merge a patch into an object. -/
  | update (id : Id) (patch : Json)
  /-- Drop an object. -/
  | delete (id : Id)
  /-- Append an item to a list in a field of an object. -/
  | push (id : Id) (field : String) (item : Json)

namespace StoreOp

/-- The word for an operation. -/
def name : StoreOp → String
  | .create .. => "create"
  | .update .. => "update"
  | .delete .. => "delete"
  | .push .. => "push"

/-- An operation as a record. -/
def toJson (op : StoreOp) : Json :=
  .record (("op", .str op.name) :: match op with
    | .create value key => ("value", value) :: Json.present "idempotencyKey" .str key
    | .update id patch => [("id", .id id), ("patch", patch)]
    | .delete id => [("id", .id id)]
    | .push id field item => [("id", .id id), ("field", .str field), ("item", item)])

/-- The name of the operation that a record describes: its field `op`, or its first item. -/
def nameOf? : Json → Option String
  | .arr items => items.head?.bind Json.string?
  | value => value.required? "op" Json.string?

/-- The operation that a record describes. -/
def ofJson? (record : Json) : Option StoreOp := do
  match ← nameOf? record with
  | "create" =>
    let value ← record.named? ["op", "value", "idempotencyKey"]
    return .create (← value.required? "value" Json.any?)
      (← value.optional? "idempotencyKey" Json.string?)
  | "update" =>
    let value ← record.named? ["op", "id", "patch"]
    return .update (← value.required? "id" Json.id?) (← value.required? "patch" Json.any?)
  | "delete" =>
    let value ← record.named? ["op", "id"]
    return .delete (← value.required? "id" Json.id?)
  | "push" =>
    let value ← record.named? ["op", "id", "field", "item"]
    return .push (← value.required? "id" Json.id?) (← value.required? "field" Json.string?)
      (← value.required? "item" Json.any?)
  | _ => none

end StoreOp

/-- Who is told about a write. -/
inductive Listener where
  /-- Someone outside, known by a name. -/
  | outside (name : String)
  /-- An actor, to be queued for draining. -/
  | actor (id : Id)
deriving DecidableEq

/-- A listener added to an object. -/
structure Watch where
  /-- What tells this watch from all others. -/
  token : Nat
  /-- The object. -/
  object : Id
  /-- Who is told. -/
  listener : Listener

/-- A call to a listener: the object and its new value, null after a delete. -/
structure Call where
  /-- Who is told. -/
  listener : Listener
  /-- The object. -/
  object : Id
  /-- Its new value. -/
  value : Json

/-- An object store. -/
structure Store where
  /-- The objects. -/
  objects : Table Id Json
  /-- The object that each idempotency key was last used for. -/
  keys : Table String Id
  /-- How many writes each object has had. -/
  writes : Table Id Nat
  /-- Objects that refuse all writes. -/
  locked : List Id
  /-- The listeners, oldest first. -/
  watches : List Watch
  /-- The token of the next watch. -/
  nextToken : Nat
  /-- Where identifiers of new objects come from. -/
  supply : Supply
  /-- Calls not yet made, oldest first. -/
  calls : List Call

namespace Store

/-- The store without objects. -/
def empty (supply : Supply) : Store := ⟨∅, ∅, ∅, [], [], 0, supply, []⟩

/-- The value of an object. -/
def read (store : Store) (id : Id) : Option Json := store.objects.find? id

/-- How many writes an object has had. -/
def writeCount (store : Store) (id : Id) : Nat := (store.writes.find? id).getD 0

/-- How many objects there are. -/
def size (store : Store) : Nat := store.objects.size

/-- Refuse all further writes to an object. -/
def protect (store : Store) (id : Id) : Store := { store with locked := id :: store.locked }

/-- Add a listener to an object; the token takes it off again. -/
def subscribe (store : Store) (object : Id) (listener : Listener) : Nat × Store :=
  (store.nextToken, { store with
    watches := store.watches ++ [⟨store.nextToken, object, listener⟩]
    nextToken := store.nextToken + 1 })

/-- Take a listener off. -/
def unsubscribe (store : Store) (token : Nat) : Store :=
  { store with watches := store.watches.filter fun watch => watch.token != token }

/-- The listeners of an object, oldest first. -/
def listeners (store : Store) (object : Id) : List Listener :=
  (store.watches.filter fun watch => watch.object == object).map Watch.listener

/-- Count a write to an object and queue the calls that tell of its new value. -/
def wrote (store : Store) (id : Id) (value : Json) : Store :=
  { store with
    writes := store.writes.insert id (store.writeCount id + 1)
    calls := store.calls ++ (store.listeners id).map fun listener => ⟨listener, id, value⟩ }

/-- Put a new value in place of an object. -/
def put (store : Store) (id : Id) (value : Json) : Store :=
  { store with objects := store.objects.insert id value }.wrote id value

/-- The live object that an idempotency key leads to. -/
def keyed? (store : Store) (key : Option String) : Option Id := do
  let id ← store.keys.find? (← key)
  if store.objects.contains id then some id else none

/-- Make an object, unless the key still leads to one. -/
def create (store : Store) (value : Json) (key : Option String) : Json × Store :=
  match store.keyed? key with
  | some id => (.record [("id", .id id), ("created", .bool false)], store)
  | none =>
    let id := store.supply.next
    let keys := match key with
      | some key => store.keys.insert key id
      | none => store.keys
    (.record [("id", .id id), ("created", .bool true)],
      { store with keys := keys, supply := store.supply.advance }.put id value)

/-- Refuse to write an object that is protected. -/
def checkWritable (store : Store) (id : Id) : Except StoreError Unit :=
  if store.locked.contains id then .error (.writeProtected id) else .ok ()

/-- Merge a patch into an object. -/
def update (store : Store) (id : Id) (patch : Json) : Except StoreError (Json × Store) := do
  store.checkWritable id
  if !patch.isObject then throw .patchNotObject
  match store.read id with
  | none => throw (.notFound id)
  | some current =>
    return (.record [("id", .id id), ("updated", .bool true)], store.put id (current.merge patch))

/-- Drop an object. -/
def delete (store : Store) (id : Id) : Except StoreError (Json × Store) := do
  store.checkWritable id
  let there := store.objects.contains id
  let store :=
    if there then { store with objects := store.objects.erase id }.wrote id .null else store
  return (.record [("id", .id id), ("deleted", .bool there)], store)

/-- The list in a field of an object, empty if there is no such field. -/
def listIn (id : Id) (object : Json) (field : String) : Except StoreError (List Json) :=
  match object with
  | .obj fields =>
    match Assoc.find? field fields with
    | none => .ok []
    | some (.arr items) => .ok items
    | some _ => .error (.notList field)
  | _ => .error (.notRecord id)

/-- Append an item to a list in a field of an object. -/
def push (store : Store) (id : Id) (field : String) (item : Json) :
    Except StoreError (Json × Store) := do
  store.checkWritable id
  match store.read id with
  | none => throw (.notFound id)
  | some current =>
    let items := (← listIn id current field) ++ [item]
    return (.record [("id", .id id), ("length", .count items.length)],
      store.put id (current.setField field (.arr items)))

/-- The result of an operation with the store it leads to, or why it is refused. -/
def apply (store : Store) : StoreOp → Except StoreError (Json × Store)
  | .create value key => .ok (store.create value key)
  | .update id patch => store.update id patch
  | .delete id => store.delete id
  | .push id field item => store.push id field item

/-- The object that an operation writes: none if the operation is refused or finds nothing to
do. -/
def written? (store : Store) (op : StoreOp) : Option Id :=
  match store.apply op with
  | .error _ => none
  | .ok _ =>
    match op with
    | .create _ key => if (store.keyed? key).isSome then none else some store.supply.next
    | .delete id => if store.objects.contains id then some id else none
    | .update id _ | .push id _ _ => some id

/-- Carry out an operation; a refused one leaves the store as it is. -/
def execute (store : Store) (op : StoreOp) : Except StoreError Json × Store :=
  match store.apply op with
  | .ok (result, store) => (.ok result, store)
  | .error cause => (.error cause, store)

theorem execute_of_apply_error {store : Store} {op : StoreOp} {cause : StoreError}
    (refused : store.apply op = .error cause) : store.execute op = (.error cause, store) := by
  simp [execute, refused]

end Store

end Troupe
