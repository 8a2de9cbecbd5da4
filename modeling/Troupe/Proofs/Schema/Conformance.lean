import Troupe.Proofs.Table
import Troupe.Schema.Check

/-!
# What conforms to a schema

A value conforms to a schema that is an object if it obeys each keyword for itself, and if its
fields and items conform to the schemas that are given for them.  The check of a value goes by a
different order: a wrong type ends it, and what is wrong inside is told with its path.  It finds
nothing exactly if the value conforms.  A keyword matters only if it has the shape that it should
have and if it is about values of this kind.

## Main results

* `Schema.violations_eq_nil`: nothing is wrong with a value exactly if it conforms;
* `Schema.Conforms.of_applied`: only the keywords that apply to a value matter;
* `Schema.accepts_iff_conforms`: both, for whole schemas.
-/

namespace Troupe

/-- A value has the type of a name: that of its kind, or `integer` for a number without fractional
part. -/
inductive Json.OfType : (value : Json) → (name : String) → Prop
  /-- Null. -/
  | null : OfType .null "null"
  /-- Truth values. -/
  | boolean (value : Bool) : OfType (.bool value) "boolean"
  /-- Numbers, -/
  | number (value : Number) : OfType (.num value) "number"
  /-- and those without fractional part. -/
  | integer {value : Number} (whole : value.isWhole = true) : OfType (.num value) "integer"
  /-- Texts. -/
  | string (text : String) : OfType (.str text) "string"
  /-- Lists. -/
  | array (items : List Json) : OfType (.arr items) "array"
  /-- Objects. -/
  | object (fields : List (String × Json)) : OfType (.obj fields) "object"

namespace Schema

variable {keywords others : List (String × Json)} {value schema : Json} {name path : String}

/-! ## Conforming -/

/-- A value obeys the keywords that say nothing of what is inside it. -/
structure Obeys (keywords : List (String × Json)) (value : Json) : Prop where
  /-- It has the type that is named, -/
  type : ∀ name, Assoc.find? "type" keywords = some (.str name) → value.OfType name
  /-- or one of them, if several are named and at least one. -/
  types : ∀ names, Assoc.find? "type" keywords = some (.arr names) → (∃ name, .str name ∈ names) →
    ∃ name, .str name ∈ names ∧ value.OfType name
  /-- It equals the constant. -/
  const : ∀ constant, Assoc.find? "const" keywords = some constant → constant.same value = true
  /-- It is among the values that are listed. -/
  enum : ∀ options, Assoc.find? "enum" keywords = some (.arr options) →
    ∃ option ∈ options, option.same value = true
  /-- As a double, a number is not below the least one -/
  minimum : ∀ bound number, Assoc.find? "minimum" keywords = some (.num bound) →
    value = .num number → ¬ number.toFloat < bound.toFloat
  /-- and not above the greatest one. -/
  maximum : ∀ bound number, Assoc.find? "maximum" keywords = some (.num bound) →
    value = .num number → ¬ bound.toFloat < number.toFloat
  /-- A text has no fewer characters than it should -/
  minLength : ∀ bound fits text, Assoc.find? "minLength" keywords = some (.num (.int bound fits)) →
    0 ≤ bound → value = .str text → bound ≤ text.length
  /-- and no more. -/
  maxLength : ∀ bound fits text, Assoc.find? "maxLength" keywords = some (.num (.int bound fits)) →
    0 ≤ bound → value = .str text → text.length ≤ bound
  /-- An object has the fields that are required, -/
  required : ∀ names fields, Assoc.find? "required" keywords = some (.arr names) →
    value = .obj fields → ∀ name, .str name ∈ names → ∃ content, (name, content) ∈ fields
  /-- and if it is to have no others, only those that are declared. -/
  additional : ∀ fields, Assoc.find? "additionalProperties" keywords = some (.bool false) →
    value = .obj fields → ∀ name content, (name, content) ∈ fields →
    ∃ declared schema, Assoc.find? "properties" keywords = some (.obj declared) ∧
      (name, schema) ∈ declared

/-- A value conforms to a schema. -/
inductive Conforms : (schema value : Json) → Prop
  /-- Every value conforms to `true`. -/
  | always (value : Json) : Conforms (.bool true) value
  /-- A value conforms to an object if it obeys its keywords, its declared fields conform to their
  schemas, and its items to theirs. -/
  | object {keywords : List (String × Json)} {value : Json} (obeys : Obeys keywords value)
    (properties : ∀ declared fields, Assoc.find? "properties" keywords = some (.obj declared) →
      value = .obj fields → ∀ name schema content, Assoc.find? name declared = some schema →
      (name, content) ∈ fields → Conforms schema content)
    (items : ∀ schema items, Assoc.find? "items" keywords = some schema → value = .arr items →
      ∀ item ∈ items, Conforms schema item) :
    Conforms (.obj keywords) value

/-! ## Keywords that apply -/

/-- A keyword with this content says something of values of this kind. -/
inductive Applies : (keyword : String) → (content value : Json) → Prop
  /-- A type is named, -/
  | type (name : String) (value : Json) : Applies "type" (.str name) value
  /-- or several are. -/
  | types {names : List Json} {name : String} (named : .str name ∈ names) (value : Json) :
    Applies "type" (.arr names) value
  /-- A constant is given. -/
  | const (constant value : Json) : Applies "const" constant value
  /-- Values are listed. -/
  | enum (options : List Json) (value : Json) : Applies "enum" (.arr options) value
  /-- A number has a lower bound -/
  | minimum (bound number : Number) : Applies "minimum" (.num bound) (.num number)
  /-- and an upper one. -/
  | maximum (bound number : Number) : Applies "maximum" (.num bound) (.num number)
  /-- The length of a text has a lower bound -/
  | minLength {bound : Int} (fits : Number.Fits bound) (natural : 0 ≤ bound) (text : String) :
    Applies "minLength" (.num (.int bound fits)) (.str text)
  /-- and an upper one. -/
  | maxLength {bound : Int} (fits : Number.Fits bound) (natural : 0 ≤ bound) (text : String) :
    Applies "maxLength" (.num (.int bound fits)) (.str text)
  /-- Fields of an object are required, -/
  | required {names : List Json} {name : String} (named : .str name ∈ names)
    (fields : List (String × Json)) : Applies "required" (.arr names) (.obj fields)
  /-- they are declared, -/
  | properties (declared fields : List (String × Json)) :
    Applies "properties" (.obj declared) (.obj fields)
  /-- and no others are allowed. -/
  | additional (fields : List (String × Json)) :
    Applies "additionalProperties" (.bool false) (.obj fields)
  /-- The items of a list have a schema. -/
  | items (schema : Json) (items : List Json) : Applies "items" schema (.arr items)

/-- Only the keywords that apply to a value matter. -/
theorem Conforms.of_applied (conforms : Conforms (.obj keywords) value)
    (same : ∀ keyword content, Applies keyword content value →
      (Assoc.find? keyword keywords = some content ↔ Assoc.find? keyword others = some content)) :
    Conforms (.obj others) value := by
  cases conforms with
  | object obeys properties items =>
    refine .object ⟨?_, ?_, ?_, ?_, ?_, ?_, ?_, ?_, ?_, ?_⟩ ?_ ?_
    · exact fun name found => obeys.type name ((same _ _ (.type name value)).2 found)
    · rintro names found ⟨name, named⟩
      exact obeys.types names ((same _ _ (.types named value)).2 found) ⟨name, named⟩
    · exact fun constant found => obeys.const constant ((same _ _ (.const constant value)).2 found)
    · exact fun options found => obeys.enum options ((same _ _ (.enum options value)).2 found)
    · rintro bound number found rfl
      exact obeys.minimum bound number ((same _ _ (.minimum bound number)).2 found) rfl
    · rintro bound number found rfl
      exact obeys.maximum bound number ((same _ _ (.maximum bound number)).2 found) rfl
    · rintro bound fits text found natural rfl
      exact obeys.minLength bound fits text ((same _ _ (.minLength fits natural text)).2 found)
        natural rfl
    · rintro bound fits text found natural rfl
      exact obeys.maxLength bound fits text ((same _ _ (.maxLength fits natural text)).2 found)
        natural rfl
    · rintro names fields found rfl name named
      exact obeys.required names fields ((same _ _ (.required named fields)).2 found) rfl name named
    · rintro fields found rfl name content mem
      obtain ⟨declared, schema, there, stated⟩ := obeys.additional fields
        ((same _ _ (.additional fields)).2 found) rfl name content mem
      exact ⟨declared, schema, (same _ _ (.properties declared fields)).1 there, stated⟩
    · rintro declared fields found rfl
      exact properties declared fields ((same _ _ (.properties declared fields)).2 found) rfl
    · rintro schema content found rfl
      exact items schema content ((same _ _ (.items schema content)).2 found) rfl

/-! ## Each keyword -/

lemma hasType_iff : hasType value name = true ↔ value.OfType name := by
  constructor
  · intro has
    cases value with
    | num number =>
      simp only [hasType, Bool.or_eq_true, Bool.and_eq_true, beq_iff_eq] at has
      rcases has with rfl | ⟨rfl, whole⟩
      · exact .number number
      · exact .integer whole
    | _ =>
      simp only [hasType, Json.kindName, beq_iff_eq] at has
      subst has
      constructor
  · rintro (_ | _ | _ | whole | _ | _ | _)
    case integer => simp [hasType, whole]
    all_goals rfl

lemma mem_stringItems {items : List Json} : name ∈ Json.stringItems items ↔ .str name ∈ items := by
  rw [Json.stringItems, List.mem_filterMap]
  constructor
  · rintro ⟨item, mem, text⟩
    cases item with
    | str text =>
      cases text
      exact mem
    | _ => cases text
  · exact fun mem => ⟨_, mem, rfl⟩

/-- What `type` says against a value that has one of the types, or none is named. -/
lemma typeViolation?_eq_none {keyword : Option Json} :
    typeViolation? keyword value path = none ↔
      (∀ name, keyword = some (.str name) → value.OfType name) ∧
      ∀ names, keyword = some (.arr names) → (∃ name, .str name ∈ names) →
        ∃ name, .str name ∈ names ∧ value.OfType name := by
  have free : ∀ allowed : List String, (allowed.isEmpty || allowed.any (hasType value)) = true ↔
      ((∃ name, name ∈ allowed) → ∃ name ∈ allowed, value.OfType name) := by
    intro allowed
    rw [Bool.or_eq_true, List.isEmpty_iff, List.any_eq_true]
    simp only [hasType_iff]
    cases allowed with
    | nil => simp
    | cons first rest =>
      refine ⟨fun either _ => either.resolve_left (List.cons_ne_nil _ _), fun named => .inr ?_⟩
      exact named ⟨first, List.mem_cons_self⟩
  have decided : typeViolation? keyword value path = none ↔
      (((keyword.map allowedTypes).getD []).isEmpty ||
        ((keyword.map allowedTypes).getD []).any (hasType value)) = true := by
    unfold typeViolation?
    dsimp only
    split <;> simp [*]
  rw [decided, free]
  match keyword with
  | none => simp
  | some (.str name) => simp [allowedTypes]
  | some (.arr names) => simp [allowedTypes, mem_stringItems]
  | some .null | some (.bool _) | some (.num _) | some (.obj _) => simp [allowedTypes]

lemma constViolations_eq_nil {keyword : Option Json} : constViolations keyword value path = [] ↔
    ∀ constant, keyword = some constant → constant.same value = true := by
  unfold constViolations
  cases keyword with
  | none => simp
  | some constant =>
    dsimp only
    split <;> simp [*]

lemma enumViolations_eq_nil {keyword : Option Json} : enumViolations keyword value path = [] ↔
    ∀ options, keyword = some (.arr options) → ∃ option ∈ options, option.same value = true := by
  unfold enumViolations
  split
  · rename_i options
    have listed : (∃ option ∈ options, option.same value = true) ↔
        (options.any fun option => option.same value) = true := List.any_eq_true.symm
    simp only [Option.some.injEq, Json.arr.injEq, forall_eq', listed]
    split <;> simp [*]
  · rename_i other
    exact ⟨fun _ options same => absurd same (other options), fun _ => rfl⟩

/-- What holds of a number and a bound that is a number, both as doubles. -/
lemma forall_float? (bound : Option Json) (number : Number) (holds : Float → Float → Prop) :
    (∀ x, bound.bind Json.float? = some x → holds x number.toFloat) ↔
      ∀ limit other, bound = some (.num limit) → Json.num number = .num other →
        holds limit.toFloat other.toFloat := by
  constructor
  · rintro all limit _ rfl ⟨⟩
    exact all _ rfl
  · rintro all x found
    obtain ⟨content, rfl, found⟩ := Option.bind_eq_some_iff.1 found
    match content with
    | .num limit =>
      cases found
      exact all limit number rfl rfl

/-- What holds of the length of a text and a bound that is a natural number. -/
lemma forall_uint64? (bound : Option Json) (text : String) (holds : Int → Int → Prop) :
    (∀ word, bound.bind Json.uint64? = some word → holds word.toNat text.length) ↔
      ∀ n fits other, bound = some (.num (.int n fits)) → 0 ≤ n → Json.str text = .str other →
        holds n other.length := by
  have word : ∀ n fits, 0 ≤ n →
      (Json.num (.int n fits)).uint64? = some (UInt64.ofNat n.toNat) ∧
        ((UInt64.ofNat n.toNat).toNat : Int) = n := by
    rintro n ⟨-, fits⟩ natural
    refine ⟨if_pos natural, ?_⟩
    rw [UInt64.toNat_ofNat', Nat.mod_eq_of_lt (by omega)]
    omega
  constructor
  · rintro all n fits _ rfl natural ⟨⟩
    obtain ⟨found, same⟩ := word n fits natural
    exact same ▸ all _ found
  · rintro all x found
    obtain ⟨content, rfl, found⟩ := Option.bind_eq_some_iff.1 found
    match content with
    | .num (.int n fits) =>
      by_cases natural : 0 ≤ n
      · obtain ⟨found', same⟩ := word n fits natural
        cases found.symm.trans found'
        exact same.symm ▸ all n fits text rfl natural rfl
      · cases (if_neg natural : (Number.int n fits).toUInt64? = none).symm.trans found

/-- What `minimum` and `maximum` say. -/
lemma boundViolations_eq_nil {least most : Option Json} :
    boundViolations least most value path = [] ↔
      (∀ bound number, least = some (.num bound) → value = .num number →
        ¬ number.toFloat < bound.toFloat) ∧
      ∀ bound number, most = some (.num bound) → value = .num number →
        ¬ bound.toFloat < number.toFloat := by
  cases value with
  | num number =>
    have below := forall_float? least number fun bound x => ¬ x < bound
    have above := forall_float? most number fun bound x => ¬ bound < x
    rw [← below, ← above, boundViolations]
    simp only [Json.float?, Json.number?, Option.map_some, List.append_eq_nil_iff]
    refine and_congr ?_ ?_
    · cases least.bind Json.float? <;> simp
    · cases most.bind Json.float? <;> simp
  | _ => simp [boundViolations, Json.float?, Json.number?]

/-- What `minLength` and `maxLength` say. -/
lemma lengthViolations_eq_nil {least most : Option Json} :
    lengthViolations least most value path = [] ↔
      (∀ bound fits text, least = some (.num (.int bound fits)) → 0 ≤ bound → value = .str text →
        bound ≤ text.length) ∧
      ∀ bound fits text, most = some (.num (.int bound fits)) → 0 ≤ bound → value = .str text →
        text.length ≤ bound := by
  cases value with
  | str text =>
    have below := forall_uint64? least text fun bound length => bound ≤ length
    have above := forall_uint64? most text fun bound length => length ≤ bound
    rw [← below, ← above, lengthViolations, List.append_eq_nil_iff]
    refine and_congr ?_ ?_
    · cases least.bind Json.uint64? <;> simp
    · cases most.bind Json.uint64? <;> simp
  | _ => simp [lengthViolations]

lemma requiredViolations_eq_nil {keyword : Option Json} {fields : List (String × Json)} :
    requiredViolations keyword fields path = [] ↔
      ∀ names, keyword = some (.arr names) → ∀ name, .str name ∈ names →
        ∃ content, (name, content) ∈ fields := by
  unfold requiredViolations
  split
  · rename_i names
    rw [List.map_eq_nil_iff, List.filter_eq_nil_iff]
    constructor
    · rintro none _ ⟨⟩ name mem
      exact Assoc.contains_iff_mem.1 (by simpa using none name (mem_stringItems.2 mem))
    · intro all name mem
      simpa using Assoc.contains_iff_mem.2 (all names rfl name (mem_stringItems.1 mem))
  · rename_i other
    exact ⟨fun _ names same => absurd same (other names), fun _ => rfl⟩

lemma additionalViolations_eq_nil {keyword properties : Option Json}
    {fields : List (String × Json)} : additionalViolations keyword properties fields path = [] ↔
      (keyword = some (.bool false) → ∀ name content, (name, content) ∈ fields →
        ∃ declared schema, properties = some (.obj declared) ∧ (name, schema) ∈ declared) := by
  have declares : ∀ name, Assoc.contains name ((properties.bind Json.fields?).getD []) = true ↔
      ∃ declared schema, properties = some (.obj declared) ∧ (name, schema) ∈ declared := by
    intro name
    rw [Assoc.contains_iff_mem]
    match properties with
    | some (.obj declared) => simp [Json.fields?]
    | none | some .null | some (.bool _) | some (.num _) | some (.str _) | some (.arr _) =>
      simp [Json.fields?]
  unfold additionalViolations
  split
  · dsimp only
    rw [List.map_eq_nil_iff, List.filter_eq_nil_iff]
    constructor
    · rintro none - name content mem
      exact (declares name).1 (by simpa using none (name, content) mem)
    · rintro all ⟨name, content⟩ mem
      simpa using (declares name).2 (all rfl name content mem)
  · rename_i other
    exact ⟨fun _ same => absurd same other, fun _ => rfl⟩

/-- What an object schema says: of the keywords first, then of what is inside a value. -/
lemma violations_obj (keywords : List (String × Json)) (value : Json) (path : String) :
    violations value (.obj keywords) path = [] ↔ Obeys keywords value ∧
      (∀ fields, value = .obj fields →
        propertyViolations fields (Assoc.find? "properties" keywords) path = []) ∧
      ∀ items, value = .arr items →
        itemViolations items (Assoc.find? "items" keywords) 0 path = [] := by
  rw [violations.eq_def]
  dsimp only
  cases typed : typeViolation? (Assoc.find? "type" keywords) value path with
  | some violation =>
    -- a value of the wrong type does not obey the keywords, whatever else is wrong
    simp only [List.cons_ne_nil, false_iff]
    rintro ⟨obeys, -⟩
    rw [typeViolation?_eq_none.2 ⟨obeys.type, obeys.types⟩] at typed
    cases typed
  | none =>
    obtain ⟨type, types⟩ := typeViolation?_eq_none.1 typed
    simp only [List.append_eq_nil_iff, constViolations_eq_nil, enumViolations_eq_nil,
      boundViolations_eq_nil, lengthViolations_eq_nil]
    constructor
    · rintro ⟨⟨⟨⟨const, enum⟩, minimum, maximum⟩, minLength, maxLength⟩, inner⟩
      refine ⟨⟨type, types, const, enum, minimum, maximum, minLength, maxLength, ?_, ?_⟩, ?_, ?_⟩
      · rintro names fields found rfl
        simp only [List.append_eq_nil_iff, requiredViolations_eq_nil] at inner
        exact inner.1.1 names found
      · rintro fields found rfl
        simp only [List.append_eq_nil_iff, additionalViolations_eq_nil] at inner
        exact inner.2 found
      · rintro fields rfl
        exact (List.append_eq_nil_iff.1 (List.append_eq_nil_iff.1 inner).1).2
      · rintro items rfl
        exact inner
    · rintro ⟨obeys, properties, items⟩
      refine ⟨⟨⟨⟨obeys.const, obeys.enum⟩, obeys.minimum, obeys.maximum⟩, obeys.minLength,
        obeys.maxLength⟩, ?_⟩
      split
      · rename_i fields
        simp only [List.append_eq_nil_iff, requiredViolations_eq_nil, additionalViolations_eq_nil]
        exact ⟨⟨fun names found => obeys.required names fields found rfl, properties fields rfl⟩,
          fun found => obeys.additional fields found rfl⟩
      · exact items _ rfl
      · rfl

/-! ## Whole schemas -/

mutual

/-- Nothing is wrong with a value exactly if it conforms. -/
theorem violations_eq_nil (value schema : Json) (path : String) :
    violations value schema path = [] ↔ Conforms schema value := by
  match schema with
  | .bool true => exact ⟨fun _ => .always value, fun _ => by rw [violations]⟩
  | .obj keywords =>
    rw [violations_obj]
    have properties : (∀ fields, value = .obj fields →
        propertyViolations fields (Assoc.find? "properties" keywords) path = []) ↔
        ∀ declared fields, Assoc.find? "properties" keywords = some (.obj declared) →
          value = .obj fields → ∀ name schema content, Assoc.find? name declared = some schema →
          (name, content) ∈ fields → Conforms schema content := by
      match value with
      | .obj fields =>
        have inner := propertyViolations_eq_nil fields (Assoc.find? "properties" keywords) path
        simp only [Json.obj.injEq, forall_eq', inner]
        exact ⟨fun all declared _ found same => same ▸ all declared found,
          fun all declared found => all declared fields found rfl⟩
      | .null | .bool _ | .num _ | .str _ | .arr _ => simp
    have items : (∀ items, value = .arr items →
        itemViolations items (Assoc.find? "items" keywords) 0 path = []) ↔
        ∀ schema items, Assoc.find? "items" keywords = some schema → value = .arr items →
          ∀ item ∈ items, Conforms schema item := by
      match value with
      | .arr items =>
        have inner := itemViolations_eq_nil items (Assoc.find? "items" keywords) 0 path
        simp only [Json.arr.injEq, forall_eq', inner]
        exact ⟨fun all schema _ found same => same ▸ all schema found,
          fun all schema found => all schema items found rfl⟩
      | .null | .bool _ | .num _ | .str _ | .obj _ => simp
    rw [properties, items]
    constructor
    · rintro ⟨obeys, properties, items⟩
      exact .object obeys properties items
    · rintro (_ | ⟨obeys, properties, items⟩)
      exact ⟨obeys, properties, items⟩
  | .bool false | .null | .num _ | .str _ | .arr _ =>
    rw [violations.eq_def]
    exact ⟨nofun, nofun⟩

/-- Nothing is wrong with fields exactly if those conform that are declared. -/
theorem propertyViolations_eq_nil (fields : List (String × Json)) (properties : Option Json)
    (path : String) : propertyViolations fields properties path = [] ↔
      ∀ declared, properties = some (.obj declared) → ∀ name schema content,
        Assoc.find? name declared = some schema → (name, content) ∈ fields →
        Conforms schema content := by
  match fields with
  | [] => simp [propertyViolations]
  | (name, value) :: rest =>
    rw [propertyViolations.eq_def]
    dsimp only
    rw [List.append_eq_nil_iff, propertyViolations_eq_nil rest properties path]
    match properties with
    | some (.obj declared) =>
      simp only [Option.bind_some, Json.field?_obj, Option.some.injEq, Json.obj.injEq, forall_eq',
        List.mem_cons, Prod.mk.injEq]
      cases found : Assoc.find? name declared with
      | none =>
        refine ⟨?_, fun all => ⟨rfl, fun other schema content there mem =>
          all other schema content there (.inr mem)⟩⟩
        rintro ⟨-, all⟩ other schema content there (⟨rfl, rfl⟩ | mem)
        · cases found.symm.trans there
        · exact all other schema content there mem
      | some schema =>
        dsimp only
        rw [violations_eq_nil value schema]
        refine ⟨?_, fun all => ⟨all name schema value found (.inl ⟨rfl, rfl⟩),
          fun other schema content there mem => all other schema content there (.inr mem)⟩⟩
        rintro ⟨own, all⟩ other schema' content there (⟨rfl, rfl⟩ | mem)
        · cases found.symm.trans there
          exact own
        · exact all other schema' content there mem
    | none | some .null | some (.bool _) | some (.num _) | some (.str _) | some (.arr _) =>
      simp [Json.field?]

/-- Nothing is wrong with items exactly if all conform. -/
theorem itemViolations_eq_nil (items : List Json) (keyword : Option Json) (index : Nat)
    (path : String) : itemViolations items keyword index path = [] ↔
      ∀ schema, keyword = some schema → ∀ item ∈ items, Conforms schema item := by
  match items with
  | [] => simp [itemViolations]
  | item :: rest =>
    rw [itemViolations.eq_def]
    dsimp only
    rw [List.append_eq_nil_iff, itemViolations_eq_nil rest keyword (index + 1) path]
    cases keyword with
    | none => simp
    | some schema => simp [violations_eq_nil item schema]

end

/-- **The check of a value accepts exactly what conforms**, and of a schema only those keywords
count that apply to the value: with the others or without them it accepts the same. -/
theorem accepts_iff_conforms :
    (∀ schema value, accepts schema value = true ↔ Conforms schema value) ∧
    ∀ keywords others value, (∀ keyword content, Applies keyword content value →
        (Assoc.find? keyword keywords = some content ↔ Assoc.find? keyword others = some content)) →
      accepts (.obj keywords) value = accepts (.obj others) value := by
  have decides : ∀ schema value, accepts schema value = true ↔ Conforms schema value := by
    intro schema value
    rw [accepts, List.isEmpty_iff, validate, violations_eq_nil]
  refine ⟨decides, fun keywords others value same => Bool.eq_iff_iff.2 ?_⟩
  rw [decides, decides]
  exact ⟨fun conforms => conforms.of_applied same,
    fun conforms => conforms.of_applied fun keyword content applies =>
      (same keyword content applies).symm⟩

namespace Sample

/-- A schema of short texts. -/
def label : List (String × Json) := [("maxLength", .count 3), ("type", .str "string")]

/-- The same schema with keywords that are misspelled, or that say nothing of a text. -/
def labelAmongOthers : List (String × Json) :=
  [("items", .bool false), ("maxLength", .count 3), ("minLength", .str "8"), ("minimum", .count 8),
    ("required", .strings ["name"]), ("type", .str "string")]

end Sample

/-- Four characters are too long for a label, with the other keywords as without them. -/
theorem accepts_iff_conforms_label :
    (∀ keyword content, Applies keyword content (.str "long") →
      (Assoc.find? keyword Sample.labelAmongOthers = some content ↔
        Assoc.find? keyword Sample.label = some content)) ∧
    ¬ Conforms (.obj Sample.label) (.str "long") ∧
    accepts (.obj Sample.labelAmongOthers) (.str "long") =
      accepts (.obj Sample.label) (.str "long") := by
  have same : ∀ keyword content, Applies keyword content (.str "long") →
      (Assoc.find? keyword Sample.labelAmongOthers = some content ↔
        Assoc.find? keyword Sample.label = some content) := by
    intro keyword content applies
    cases applies <;>
      simp [Sample.label, Sample.labelAmongOthers, Assoc.find?_cons, Json.count, Json.strings]
  obtain ⟨decides, only⟩ := accepts_iff_conforms
  refine ⟨same, fun conforms => ?_, only _ _ _ same⟩
  have long : accepts (.obj Sample.label) (.str "long") = false := by decide +kernel
  rw [(decides _ _).2 conforms] at long
  cases long

end Schema

end Troupe
