import Mathlib.Data.List.Nodup
import Troupe.Proofs.Json.Decode
import Troupe.Proofs.Store.Writes
import Troupe.Store.Image

/-!
# A store that was saved and loaded

If a saved store loads, it holds the same objects, each as its text reads.  Identifiers read as
they were written, so no object is lost or takes the place of another, and every key leads to the
same object.

## Main results

* `Id.ofText?_text`: an identifier reads as it was written;
* `Store.read_of_reload?`: what a store holds that was saved and loaded;
* `Store.keys_of_reload?`: where its keys lead.
-/

namespace Troupe

/-! ## Identifiers -/

namespace Id

/-- Groups of digits that are joined by hyphens. -/
lemma ofHyphenated?_groups {a b c d e : List Char} (ha : a.length = 8) (hb : b.length = 4)
    (hc : c.length = 4) (hd : d.length = 4) (he : e.length = 12) :
    ofHyphenated? (a ++ '-' :: b ++ '-' :: c ++ '-' :: d ++ '-' :: e) =
      ofBare? (a ++ b ++ c ++ d ++ e) := by
  have hyphens : (a ++ '-' :: b ++ '-' :: c ++ '-' :: d ++ '-' :: e).length = 36 ∧
      (a ++ '-' :: b ++ '-' :: c ++ '-' :: d ++ '-' :: e)[8]? = some '-' ∧
      (a ++ '-' :: b ++ '-' :: c ++ '-' :: d ++ '-' :: e)[13]? = some '-' ∧
      (a ++ '-' :: b ++ '-' :: c ++ '-' :: d ++ '-' :: e)[18]? = some '-' ∧
      (a ++ '-' :: b ++ '-' :: c ++ '-' :: d ++ '-' :: e)[23]? = some '-' := by
    refine ⟨by simp [ha, hb, hc, hd, he], ?_, ?_, ?_, ?_⟩ <;>
      simp [ha, hb, hc, hd, List.getElem?_append]
  rw [ofHyphenated?, if_pos hyphens]
  congr 1
  simp (disch := omega) [ha, hb, hc, hd, List.drop_append, List.drop_eq_nil_of_le]

lemma hyphenate_length {digits : List Char} (length : digits.length = 32) :
    (hyphenate digits).length = 36 := by
  simp [hyphenate, length]

/-- An identifier reads as it was written. -/
theorem ofText?_text (id : Id) : ofText? id.text = some id := by
  have length : id.digits.length = 32 := Hex.length_digits 32 _
  have cut : id.digits.take 8 ++ (id.digits.drop 8).take 4 ++ (id.digits.drop 12).take 4
      ++ (id.digits.drop 16).take 4 ++ id.digits.drop 20 = id.digits := by
    have step : ∀ n, (id.digits.drop n).take 4 ++ id.digits.drop (n + 4) = id.digits.drop n := by
      intro n
      rw [← List.drop_drop, List.take_append_drop]
    rw [List.append_assoc, step 16, List.append_assoc, step 12, List.append_assoc, step 8,
      List.take_append_drop]
  have read : ofHyphenated? (hyphenate id.digits) = some id := by
    rw [hyphenate, ofHyphenated?_groups (by simp [length]) (by simp [length]) (by simp [length])
      (by simp [length]) (by simp [length]), cut, ofBare?, if_pos length, digits,
      Hex.number?_digits, Nat.mod_eq_of_lt (Nat.lt_of_lt_of_eq id.bits.isLt (by decide))]
    simp [ofNat]
  rw [ofText?, text, String.toList_ofList, ofChars?, hyphenate_length length]
  exact read

lemma text_injective {a b : Id} (same : a.text = b.text) : a = b :=
  Option.some.inj ((ofText?_text a).symm.trans ((congrArg ofText? same).trans (ofText?_text b)))

end Id

lemma Json.id?_id (id : Id) : (Json.id id).id? = some id := by
  rw [Json.id, Json.id?, Json.string?, Option.bind_some, Id.ofText?_text]

lemma Json.id_ne_null (id : Id) : Json.id id ≠ .null := by
  simp [Json.id]

namespace Json

/-- A table is fixed if its values are. -/
lemma fixed_table {α : Type} {encode : α → Json} {table : Table String α}
    (all : ∀ name value, table.find? name = some value → (encode value).Fixed) :
    (Json.table encode table).Fixed := by
  refine fixed_obj (List.pairwise_map.2 table.sorted) fun name value found => ?_
  rw [Assoc.find?_map_value] at found
  obtain ⟨content, there, rfl⟩ := Option.map_eq_some_iff.1 found
  exact all name content there

/-- A table of values that read as they were written reads as it was written. -/
lemma table?_table {α : Type} {encode : α → Json} {decode : Json → Option α}
    (inverse : ∀ value, decode (encode value) = some value) (table : Table String α) :
    table? decode (.table encode table) = some table := by
  have entries : (table.entries.map fun entry => (entry.1, encode entry.2)).mapM
      (fun field => (decode field.2).map fun value => (field.1, value)) = some table.entries :=
    mapM_map_of_inverse (fun entry => by rw [inverse]; rfl) table.entries
  simp only [table?, Json.table, fields?, Option.bind_eq_bind, Option.bind_some, entries,
    Option.pure_def, Table.ofList_entries]

end Json

/-! ## Stores -/

namespace StoreImage

/-- Objects that were written under their identifiers are read under them. -/
lemma find?_objects {fields : List (String × Json)} {entries : List (Id × Json)}
    (written : ∀ field ∈ fields, ∃ id : Id, field.1 = id.text)
    (read : (fields.mapM fun field => (Id.ofText? field.1).map fun id => (id, field.2)) =
      some entries) :
    entries.map (fun entry => entry.1.text) = fields.map Prod.fst ∧
      ∀ id : Id, Assoc.find? id entries = Assoc.find? id.text fields := by
  induction fields generalizing entries with
  | nil =>
    cases read
    exact ⟨rfl, fun _ => rfl⟩
  | cons field rest ih =>
    obtain ⟨name, value⟩ := field
    obtain ⟨own, rfl⟩ := written (name, value) List.mem_cons_self
    simp only [List.mapM_cons, Id.ofText?_text, Option.map_some, Option.bind_eq_bind,
      Option.bind_some, Option.bind_eq_some_iff, Option.pure_def, Option.some.injEq] at read
    obtain ⟨more, restRead, rfl⟩ := read
    obtain ⟨names, values⟩ :=
      ih (fun field mem => written field (List.mem_cons_of_mem _ mem)) restRead
    refine ⟨by rw [List.map_cons, List.map_cons, names], fun id => ?_⟩
    rw [Assoc.find?_cons, Assoc.find?_cons, values]
    by_cases same : own = id
    · rw [if_pos same, if_pos (congrArg Id.text same)]
    · rw [if_neg same, if_neg fun eq => same (Id.text_injective eq)]

/-- What is read of an image that was written: its objects and its keys survive. -/
lemma fields_of_ofText? {image result : StoreImage} (read : ofText? image.text = some result) :
    (∃ objects, (Json.obj (image.objects.entries.map fun entry => (entry.1.text, entry.2))).Survives
        objects ∧ objects? objects = some result.objects) ∧
      ∃ keys, (Json.table .id image.keys).Survives keys ∧
        Json.table? Json.id? keys = some result.keys := by
  obtain ⟨record, recordRead, decoded⟩ := Option.bind_eq_some_iff.1 read
  obtain ⟨fields, rfl, -, survive⟩ := (Json.ofText?_text recordRead).obj
    (Assoc.nodup_of_sorted (Assoc.sorted_ofList _))
  simp only [ofJson?, Json.named?, Option.bind_eq_bind, Option.bind_some, Json.required?,
    Json.field?_obj, Option.bind_eq_some_iff, Option.pure_def, Option.some.injEq] at decoded
  obtain ⟨_, ⟨objects, objectsFound, objectsRead⟩, _, ⟨keys, keysFound, keysRead⟩, rfl⟩ := decoded
  have objectsKept := survive "objects"
  have keysKept := survive "idempotency"
  rw [Assoc.find?_ofList, objectsFound] at objectsKept
  rw [Assoc.find?_ofList, keysFound] at keysKept
  exact ⟨⟨objects, objectsKept, objectsRead⟩, keys, keysKept, keysRead⟩

/-- The objects of an image that was written and read. -/
theorem find?_of_ofText? {image result : StoreImage} (read : ofText? image.text = some result)
    (id : Id) :
    match image.objects.find? id, result.objects.find? id with
      | some value, some content => value.Survives content
      | none, none => True
      | _, _ => False := by
  obtain ⟨⟨objects, survives, tableRead⟩, -⟩ := fields_of_ofText? read
  -- the objects stand in the image by the texts of their identifiers
  have texts : (image.objects.entries.map fun entry => (entry.1.text, entry.2)).map Prod.fst =
      (image.objects.entries.map Prod.fst).map Id.text := by
    rw [List.map_map, List.map_map]
    rfl
  have nodup : ((image.objects.entries.map Prod.fst).map Id.text).Nodup :=
    List.Nodup.map (fun _ _ => Id.text_injective) (Table.nodup_keys image.objects)
  have written : ∀ id : Id, Assoc.find? id.text
      (image.objects.entries.map fun entry => (entry.1.text, entry.2)) = image.objects.find? id :=
    fun id => Assoc.find?_map_of_injective (fun _ _ => Id.text_injective) id _
  obtain ⟨kept, rfl, sorted, each⟩ := Json.Survives.obj survives (texts ▸ nodup)
  simp only [objects?, Json.fields?, Option.bind_eq_bind, Option.bind_some,
    Option.bind_eq_some_iff, Option.pure_def, Option.some.injEq] at tableRead
  obtain ⟨entries, entriesRead, eq⟩ := tableRead
  have names : ∀ field ∈ kept, ∃ id : Id, field.1 = id.text := by
    intro field mem
    have there := each field.1
    rw [Assoc.find?_eq_some_of_mem sorted mem] at there
    cases stored : Assoc.find? field.1
        (image.objects.entries.map fun entry => (entry.1.text, entry.2)) with
    | none =>
      rw [stored] at there
      exact there.elim
    | some value =>
      obtain ⟨entry, -, same⟩ := List.mem_map.1 (Assoc.mem_of_find?_eq_some stored)
      exact ⟨entry.1, (congrArg Prod.fst same).symm⟩
  obtain ⟨same, values⟩ := find?_objects names entriesRead
  have nodupRead : (entries.map Prod.fst).Nodup := by
    have distinct : ((entries.map Prod.fst).map Id.text).Nodup := by
      rw [List.map_map]
      exact same ▸ Assoc.nodup_of_sorted sorted
    exact distinct.of_map
  have found : (Table.ofList entries).find? id = Assoc.find? id.text kept := by
    rw [Table.ofList, Table.find?, Assoc.find?_ofList, Assoc.find?_reverse id nodupRead, values]
  rw [← eq, found, ← written]
  exact each id.text

/-- Its keys lead where they led. -/
theorem keys_of_ofText? {image result : StoreImage} (read : ofText? image.text = some result)
    (name : String) : result.keys.find? name = image.keys.find? name := by
  obtain ⟨-, keys, survives, keysRead⟩ := fields_of_ofText? read
  have fixed : (Json.table .id image.keys).Fixed := Json.fixed_table fun _ _ _ => Json.fixed_str _
  rw [fixed keys survives, Json.table?_table Json.id?_id] at keysRead
  rw [Option.some.inj keysRead]

end StoreImage

/-- What a store holds that was saved and loaded: each object as its text reads. -/
theorem Store.read_of_reload? {store loaded : Store} (reloaded : store.reload? = some loaded)
    (id : Id) :
    match store.read id, loaded.read id with
      | some value, some content => value.Survives content
      | none, none => True
      | _, _ => False := by
  obtain ⟨image, read, rfl⟩ := Option.map_eq_some_iff.1 reloaded
  exact StoreImage.find?_of_ofText? read id

/-- Its keys lead where they led. -/
theorem Store.keys_of_reload? {store loaded : Store} (reloaded : store.reload? = some loaded)
    (name : String) : loaded.keys.find? name = store.keys.find? name := by
  obtain ⟨image, read, rfl⟩ := Option.map_eq_some_iff.1 reloaded
  exact StoreImage.keys_of_ofText? read name

/-- It has no new objects and takes identifiers from the same supply. -/
lemma Store.supplies_of_reload? {store loaded : Store} (reloaded : store.reload? = some loaded) :
    store.Supplies loaded := by
  refine ⟨?_, fun id there => ?_⟩
  · obtain ⟨image, -, rfl⟩ := Option.map_eq_some_iff.1 reloaded
    exact .refl _
  · have same := read_of_reload? reloaded id
    obtain ⟨content, found⟩ := Option.isSome_iff_exists.1 there
    rw [found] at same
    cases kept : store.read id with
    | none =>
      rw [kept] at same
      exact same.elim
    | some value => exact .inl rfl

end Troupe
