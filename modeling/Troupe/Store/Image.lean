import Troupe.Json.Printer
import Troupe.Json.Reader
import Troupe.Store.Basic

/-!
# Saved stores

The image of a store holds its objects and its idempotency keys.  Write counts, protection
and listeners are not part of it.
-/

namespace Troupe

/-- What is saved of a store. -/
structure StoreImage where
  /-- The objects. -/
  objects : Table Id Json
  /-- The object of each idempotency key. -/
  keys : Table String Id

namespace StoreImage

/-- An image as a record. -/
def toJson (image : StoreImage) : Json :=
  .record
    [("objects", .obj (image.objects.entries.map fun entry => (entry.1.text, entry.2))),
      ("idempotency", .table .id image.keys)]

/-- Objects by identifiers, from the fields of an object. -/
def objects? (value : Json) : Option (Table Id Json) := do
  let entries ← (← value.fields?).mapM fun field =>
    (Id.ofText? field.1).map fun id => (id, field.2)
  return Table.ofList entries

/-- The image that a record describes. -/
def ofJson? (record : Json) : Option StoreImage := do
  let value ← record.named? ["objects", "idempotency"]
  return ⟨← value.required? "objects" objects?,
    ← value.required? "idempotency" (Json.table? Json.id?)⟩

/-- The text in which an image is saved. -/
def text (image : StoreImage) : String := image.toJson.text

/-- The image that a text holds. -/
def ofText? (text : String) : Option StoreImage := (Json.ofText? text).bind ofJson?

end StoreImage

namespace Store

/-- What is saved of the store. -/
def image (store : Store) : StoreImage := ⟨store.objects, store.keys⟩

/-- The store with a saved image and nothing else. -/
def ofImage (supply : Supply) (image : StoreImage) : Store :=
  { empty supply with objects := image.objects, keys := image.keys }

/-- Save the store and load it again.  No token is given twice, so one from before takes off
nothing that is added later. -/
def reload? (store : Store) : Option Store :=
  (StoreImage.ofText? store.image.text).map fun image =>
    { ofImage store.supply image with nextToken := store.nextToken }

end Store

end Troupe
