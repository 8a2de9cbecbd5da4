import Troupe.Json.Decode
import Troupe.Proofs.Json.Reading

/-!
# Reading the fields of a record

A field that was written is found among the fields of its record, and if its value reads as it
was written, the field does.
-/

namespace Troupe.Json

variable {α : Type} {value content : Json} {name : String} {decode : Json → Option α} {result : α}

lemma required?_of_field? (found : value.field? name = some content)
    (read : decode content = some result) : value.required? name decode = some result := by
  rw [required?, found, Option.bind_some, read]

lemma defaulted?_of_field? {default : α} (found : value.field? name = some content)
    (read : decode content = some result) : value.defaulted? name decode default = some result := by
  rw [defaulted?, found]
  exact read

/-- What is written of an optional value must not be null, or it would read as no value. -/
lemma optional?_of_field? {encode : α → Json} {stored : Option α}
    (found : value.field? name = stored.map encode)
    (inverse : ∀ content, decode (encode content) = some content)
    (there : ∀ content, encode content ≠ .null) : value.optional? name decode = some stored := by
  cases stored with
  | none => rw [optional?, found, Option.map_none]
  | some content =>
    have read : value.optional? name decode = (decode (encode content)).map some := by
      rw [optional?, found, Option.map_some]
      split
      · contradiction
      · rename_i null
        exact absurd (Option.some.inj null) (there content)
      · rename_i same
        rw [Option.some.inj same]
    rw [read, inverse, Option.map_some]

/-- A field that is written only if there is something to write. -/
lemma find?_present (name key : String) (encode : α → Json) (value : Option α) :
    Assoc.find? key (present name encode value).reverse =
      if name = key then value.map encode else none := by
  cases value with
  | none => simp [present]
  | some value => simp [present, Assoc.find?_cons]

lemma named?_record (names : List String) (fields : List (String × Json)) :
    (record fields).named? names = some (record fields) := rfl

/-! ## Values -/

lemma string?_str (text : String) : (str text).string? = some text := rfl

lemma bool?_bool (value : Bool) : (bool value).bool? = some value := rfl

/-- A list reads as it was written if each of its items does. -/
lemma mapM_map_of_inverse {ε κ : Type} {write : ε → κ} {read : κ → Option ε}
    (inverse : ∀ item, read (write item) = some item) (items : List ε) :
    (items.map write).mapM read = some items := by
  induction items with
  | nil => rfl
  | cons item rest ih => simp [ih, inverse]

/-- A list of texts reads as it was written. -/
lemma strings?_strings (texts : List String) : strings? (strings texts) = some texts := by
  simp only [strings?, list?, strings, items?, Option.bind_eq_bind, Option.bind_some]
  exact mapM_map_of_inverse string?_str texts

/-- A count of 64 bits reads as it was written. -/
lemma uint64?_count (n : UInt64) : (count n.toNat).uint64? = some n := by
  have small : n.toNat < 2 ^ 64 := n.toNat_lt
  have same : (min (n.toNat : Int) 0xffffffffffffffff).toNat = n.toNat := by omega
  simp only [uint64?, count, number?, Option.bind_some, Number.ofNat, Number.toUInt64?]
  rw [if_pos (by omega), same, UInt64.ofNat_toNat]

end Troupe.Json
