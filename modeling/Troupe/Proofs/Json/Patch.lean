import Mathlib.Tactic.Lemma
import Troupe.Json.Patch
import Troupe.Proofs.Table

/-!
# Differences as patches

A merge patch cannot say that a field becomes null, so not every value can be reached from
another by one.  But what merges have made of a value can: they put no new null into any object
(`Json.NoNewNull`), and then the difference, merged into the old value, gives the new one.

## Main results

* `Json.NoNewNull.merge`: merging a patch into a value puts no new null into it;
* `Json.NoNewNull.same_merge_diff`: merging a difference gives the value that was meant.
-/

namespace Troupe

/-- A finite double equals itself. -/
lemma Number.beq_self_of_isFinite {x : Float} (finite : x.isFinite = true) : (x == x) = true := by
  change x.toModel.unpack.isFinite = true at finite
  change x.toModel.unpack.beq x.toModel.unpack = true
  generalize x.toModel.unpack = parts at finite
  cases parts with
  | notANumber | infinity => cases finite
  | zero => rfl
  | finite sign mantissa exponent =>
    have same : (compare exponent exponent).then (compare mantissa mantissa) = .eq := by simp
    cases sign with
    | negative =>
      change (some (Ordering.swap _) == some Ordering.eq) = true
      rw [same]
      rfl
    | positive =>
      change (some _ == some Ordering.eq) = true
      rw [same]
      rfl

lemma Number.same_self (value : Number) : value.same value = true := by
  cases value with
  | int n fits => exact beq_self_eq_true n
  | float x finite => exact beq_self_of_isFinite finite

namespace Json

mutual

/-- What holds of every value that is no object, and of an object if it holds of its fields. -/
theorem induction_fields {P : Json → Prop} (other : ∀ value, value.isObject = false → P value)
    (obj : ∀ fields, (∀ name value, (name, value) ∈ fields → P value) → P (.obj fields)) :
    ∀ value, P value
  | .obj fields => obj fields (induction_entries other obj fields)
  | .null => other .null rfl
  | .bool value => other (.bool value) rfl
  | .num value => other (.num value) rfl
  | .str text => other (.str text) rfl
  | .arr items => other (.arr items) rfl

/-- The same, for every field of an object. -/
theorem induction_entries {P : Json → Prop} (other : ∀ value, value.isObject = false → P value)
    (obj : ∀ fields, (∀ name value, (name, value) ∈ fields → P value) → P (.obj fields)) :
    ∀ fields : List (String × Json), ∀ name value, (name, value) ∈ fields → P value
  | [], _, _, mem => nomatch mem
  | (_, head) :: rest, name, value, mem => by
    rcases List.mem_cons.1 mem with same | mem
    · cases same
      exact induction_fields other obj head
    · exact induction_entries other obj rest name value mem

end

/-! ## Equality -/

mutual

/-- Every value equals itself. -/
theorem same_self : ∀ value : Json, value.same value = true
  | .null => rfl
  | .bool value => beq_self_eq_true value
  | .num value => value.same_self
  | .str text => beq_self_eq_true text
  | .arr items => sameItems_self items
  | .obj fields => sameFields_self fields

theorem sameItems_self : ∀ items : List Json, sameItems items items = true
  | [] => rfl
  | item :: rest => by rw [sameItems, same_self item, sameItems_self rest]; rfl

theorem sameFields_self : ∀ fields : List (String × Json), sameFields fields fields = true
  | [] => rfl
  | (name, value) :: rest => by
    rw [sameFields, beq_self_eq_true, same_self value, sameFields_self rest]
    rfl

end

/-- Only a text equals a text, and then it is the same. -/
lemma eq_str_of_same {value : Json} {text : String} (same : value.same (.str text) = true) :
    value = .str text := by
  cases value with
  | str other =>
    rw [Json.same, beq_iff_eq] at same
    rw [same]
  | null | bool | num | arr | obj => simp [Json.same] at same

/-- Two objects in order are equal if what can be looked up in them is. -/
theorem sameFields_of_find? {left right : List (String × Json)} (sortedLeft : Assoc.Sorted left)
    (sortedRight : Assoc.Sorted right)
    (each : ∀ name, match Assoc.find? name left, Assoc.find? name right with
      | some a, some b => a.same b = true
      | none, none => True
      | _, _ => False) : sameFields left right = true := by
  induction left generalizing right with
  | nil =>
    cases right with
    | nil => rfl
    | cons entry rest =>
      have head := each entry.1
      simp [Assoc.find?] at head
  | cons head rest ih =>
    obtain ⟨k, a⟩ := head
    cases right with
    | nil =>
      have head := each k
      simp [Assoc.find?] at head
    | cons head' rest' =>
      obtain ⟨l, b⟩ := head'
      obtain ⟨below, sortedRest⟩ := List.pairwise_cons.1 sortedLeft
      obtain ⟨below', sortedRest'⟩ := List.pairwise_cons.1 sortedRight
      -- the smallest name of one side is found on the other, so the two are one
      have eq : k = l := by
        rcases KeyOrder.trichotomy k l with lt | eq | lt
        · have none : Assoc.find? k ((l, b) :: rest') = none :=
            Assoc.find?_eq_none_of_lt (List.forall_mem_cons.2
              ⟨lt, fun entry mem => KeyOrder.trans lt (below' entry mem)⟩)
          have head := each k
          simp [none, Assoc.find?_cons] at head
        · exact eq
        · have none : Assoc.find? l ((k, a) :: rest) = none :=
            Assoc.find?_eq_none_of_lt (List.forall_mem_cons.2
              ⟨lt, fun entry mem => KeyOrder.trans lt (below entry mem)⟩)
          have head := each l
          simp [none, Assoc.find?_cons] at head
      subst eq
      have head : a.same b = true := by simpa [Assoc.find?_cons] using each k
      have tail : sameFields rest rest' = true := by
        refine ih sortedRest sortedRest' fun name => ?_
        by_cases same : k = name
        · subst same
          rw [Assoc.find?_eq_none_of_lt below, Assoc.find?_eq_none_of_lt below']
          trivial
        · simpa [Assoc.find?_cons, same] using each name
      rw [sameFields, beq_self_eq_true, head, tail]
      rfl

/-! ## Merging -/

/-- What an object is merged into counts by its fields only. -/
lemma merge_eq_of_fieldsOf {value other patch : Json} (object : patch.isObject = true)
    (same : value.fieldsOf = other.fieldsOf) : value.merge patch = other.merge patch := by
  cases patch with
  | obj fields => rw [merge, merge, same]
  | _ => cases object

lemma isObject_foldl_merge {value : Json} (object : value.isObject = true) {patches : List Json}
    (objects : ∀ patch ∈ patches, patch.isObject = true) :
    (patches.foldl merge value).isObject = true := by
  induction patches generalizing value with
  | nil => exact object
  | cons patch rest ih =>
    refine ih ?_ fun other mem => objects other (List.mem_cons_of_mem _ mem)
    have head := objects patch List.mem_cons_self
    cases patch with
    | obj fields => rfl
    | _ => cases head

lemma sorted_mergeFields {target : List (String × Json)} (sorted : Assoc.Sorted target)
    (patch : List (String × Json)) : Assoc.Sorted (mergeFields target patch) := by
  induction patch generalizing target with
  | nil => exact sorted
  | cons entry rest ih =>
    rw [mergeFields]
    refine ih ?_
    split
    · exact Assoc.sorted_erase _ sorted
    · exact Assoc.sorted_insert _ _ sorted

/-- What a field is after a patch in order has been merged. -/
theorem find?_mergeFields (target : List (String × Json)) {patch : List (String × Json)}
    (sorted : Assoc.Sorted patch) (name : String) :
    Assoc.find? name (mergeFields target patch) =
      match Assoc.find? name patch with
      | none => Assoc.find? name target
      | some value =>
        if value.isNull then none
        else some (merge ((Assoc.find? name target).getD .null) value) := by
  induction patch generalizing target with
  | nil => rfl
  | cons entry rest ih =>
    obtain ⟨key, value⟩ := entry
    obtain ⟨below, sortedRest⟩ := List.pairwise_cons.1 sorted
    rw [mergeFields, ih _ sortedRest, Assoc.find?_cons]
    by_cases same : key = name
    · subst same
      rw [Assoc.find?_eq_none_of_lt below, if_pos rfl]
      dsimp only
      split
      · rw [Assoc.find?_erase, if_pos rfl]
      · rw [Assoc.find?_insert, if_pos rfl]
    · rw [if_neg same]
      have kept : Assoc.find? name (if value.isNull = true then Assoc.erase key target
          else Assoc.insert key (merge ((Assoc.find? key target).getD .null) value) target) =
            Assoc.find? name target := by
        split
        · rw [Assoc.find?_erase, if_neg same]
        · rw [Assoc.find?_insert, if_neg same]
      rw [kept]

/-! ## Differences -/

/-- Two values that are not both objects differ by the second one. -/
lemma diff_of_not_objects {before after : Json}
    (other : (before.isObject && after.isObject) = false) : before.diff after = after := by
  cases after with
  | obj new =>
    cases before with
    | obj old => cases other
    | _ => rfl
  | _ => rfl

/-- What a difference says of a field that has a value in the end: nothing if it had an equal
one before. -/
def change? (old : List (String × Json)) (name : String) (value : Json) : Option Json :=
  match Assoc.find? name old with
  | some previous => if previous.same value then none else some (previous.diff value)
  | none => some value

lemma diffFields_cons (old patch : List (String × Json)) (name : String) (value : Json)
    (rest : List (String × Json)) :
    diffFields old patch ((name, value) :: rest) =
      diffFields old (match change? old name value with
        | none => patch
        | some change => Assoc.insert name change patch) rest := by
  rw [diffFields, change?]
  cases Assoc.find? name old with
  | none => rfl
  | some previous =>
    dsimp only
    split
    · rfl
    · split
      · rfl
      · rename_i other
        rw [diff_of_not_objects (Bool.eq_false_iff.2 other)]

lemma sorted_diffFields (old : List (String × Json)) {patch : List (String × Json)}
    (sorted : Assoc.Sorted patch) (new : List (String × Json)) :
    Assoc.Sorted (diffFields old patch new) := by
  induction new generalizing patch with
  | nil => exact sorted
  | cons entry rest ih =>
    rw [diffFields_cons]
    refine ih ?_
    split
    · exact sorted
    · exact Assoc.sorted_insert _ _ sorted

/-- What a difference says of a field. -/
theorem find?_diffFields (old patch : List (String × Json)) {new : List (String × Json)}
    (sorted : Assoc.Sorted new) (name : String) :
    Assoc.find? name (diffFields old patch new) =
      ((Assoc.find? name new).bind (change? old name)).or (Assoc.find? name patch) := by
  induction new generalizing patch with
  | nil => rfl
  | cons entry rest ih =>
    obtain ⟨key, value⟩ := entry
    obtain ⟨below, sortedRest⟩ := List.pairwise_cons.1 sorted
    rw [diffFields_cons, ih _ sortedRest, Assoc.find?_cons]
    by_cases same : key = name
    · subst same
      rw [Assoc.find?_eq_none_of_lt below, if_pos rfl]
      cases changed : change? old key value with
      | none => simp [changed]
      | some change => simp [changed, Assoc.find?_insert]
    · rw [if_neg same]
      congr 1
      split
      · rfl
      · rw [Assoc.find?_insert, if_neg same]

/-- A difference removes what is there no more. -/
lemma find?_removals (old new : List (String × Json)) (name : String) :
    Assoc.find? name (Assoc.ofList (removals old new)) =
      if Assoc.contains name old && !Assoc.contains name new then some .null else none := by
  rw [Assoc.find?_ofList]
  cases found : Assoc.find? name (removals old new).reverse with
  | some value =>
    have mem := List.mem_reverse.1 (Assoc.mem_of_find?_eq_some found)
    obtain ⟨entry, kept, eq⟩ := List.mem_map.1 mem
    obtain ⟨there, gone⟩ := List.mem_filter.1 kept
    cases eq
    obtain ⟨value, found⟩ := Assoc.exists_find?_of_mem there
    rw [if_pos]
    simp only [Assoc.contains, found, Option.isSome_some, Bool.true_and]
    exact gone
  | none =>
    rw [if_neg]
    intro removed
    simp only [Bool.and_eq_true, Assoc.contains, Option.isSome_iff_exists] at removed
    obtain ⟨⟨value, there⟩, gone⟩ := removed
    have mem : (name, Json.null) ∈ removals old new :=
      List.mem_map.2 ⟨(name, value), List.mem_filter.2 ⟨Assoc.mem_of_find?_eq_some there, gone⟩, rfl⟩
    obtain ⟨other, found'⟩ := Assoc.exists_find?_of_mem (List.mem_reverse.2 mem)
    rw [found] at found'
    cases found'

/-- The difference to an object, field by field. -/
lemma diff_obj (before : Json) {new : List (String × Json)} (sorted : Assoc.Sorted new) :
    ∃ patch, before.diff (.obj new) = .obj patch ∧ Assoc.Sorted patch ∧
      ∀ name, Assoc.find? name patch =
        ((Assoc.find? name new).bind (change? before.fieldsOf name)).or
          (if Assoc.contains name before.fieldsOf && !Assoc.contains name new then some .null
            else none) := by
  by_cases object : before.isObject = true
  · obtain ⟨old, rfl⟩ : ∃ old, before = .obj old := by
      cases before <;> first | exact ⟨_, rfl⟩ | cases object
    refine ⟨_, rfl, sorted_diffFields old (Assoc.sorted_ofList _) new, fun name => ?_⟩
    rw [find?_diffFields old _ sorted, find?_removals]
    rfl
  · have none : before.fieldsOf = [] := by
      cases before <;> first | rfl | exact absurd rfl object
    refine ⟨new, diff_of_not_objects (by simp [object]), sorted, fun name => ?_⟩
    rw [none]
    cases Assoc.find? name new <;> rfl

/-! ## Nulls -/

/-- No object in the second value has a null field, at any depth, that is not null in the first
value; and all these objects are in order. -/
inductive NoNewNull : (before after : Json) → Prop
  /-- Nothing is asked of a value that is no object. -/
  | other {before after : Json} (scalar : after.isObject = false) : NoNewNull before after
  /-- In an object a null was there before, and every field is good in its turn. -/
  | obj {before : Json} {new : List (String × Json)} (sorted : Assoc.Sorted new)
    (nulls : ∀ name, Assoc.find? name new = some .null →
      Assoc.find? name before.fieldsOf = some .null)
    (fields : ∀ name value, Assoc.find? name new = some value →
      NoNewNull ((Assoc.find? name before.fieldsOf).getD .null) value) :
    NoNewNull before (.obj new)

lemma CanonicalFields.of_mem {fields : List (String × Json)} (canonical : CanonicalFields fields)
    {name : String} {value : Json} (mem : (name, value) ∈ fields) : value.Canonical := by
  induction fields with
  | nil => cases mem
  | cons entry rest ih =>
    obtain ⟨key, head⟩ := entry
    rw [CanonicalFields] at canonical
    rcases List.mem_cons.1 mem with same | mem
    · cases same
      exact canonical.1
    · exact ih canonical.2 mem

lemma sorted_fieldsOf {value : Json} (canonical : value.Canonical) :
    Assoc.Sorted value.fieldsOf := by
  cases value with
  | obj fields =>
    rw [Canonical] at canonical
    exact canonical.1
  | _ => exact Assoc.sorted_nil

lemma canonical_find? {value content : Json} {name : String} (canonical : value.Canonical)
    (found : Assoc.find? name value.fieldsOf = some content) : content.Canonical := by
  cases value with
  | obj fields =>
    rw [Canonical] at canonical
    exact canonical.2.of_mem (Assoc.mem_of_find?_eq_some found)
  | _ => cases found

lemma isNull_iff {value : Json} : value.isNull = true ↔ value = .null := by
  cases value <;> simp [isNull]

lemma isObject_diff (before after : Json) : (before.diff after).isObject = after.isObject := by
  cases after with
  | obj new => cases before <;> rfl
  | _ => rfl

/-- A difference is null only if the new value is. -/
lemma isNull_diff (before after : Json) : (before.diff after).isNull = after.isNull := by
  cases after with
  | obj new => cases before <;> rfl
  | _ => rfl

namespace NoNewNull

/-- A value in order adds no null to itself. -/
protected lemma refl {value : Json} (canonical : value.Canonical) : NoNewNull value value := by
  induction value using induction_fields with
  | other value scalar => exact .other scalar
  | obj fields ih =>
    rw [Canonical] at canonical
    refine .obj canonical.1 (fun name found => found) fun name value found => ?_
    have mem := Assoc.mem_of_find?_eq_some found
    rw [fieldsOf, found]
    exact ih name value mem (canonical.2.of_mem mem)

variable {before after : Json}

/-- The fields of a value are as good as the value. -/
lemma fieldsOf_obj (good : NoNewNull before after) : NoNewNull before (.obj after.fieldsOf) := by
  cases good with
  | other scalar =>
    have none : after.fieldsOf = [] := by
      cases after <;> first | rfl | cases scalar
    rw [none]
    exact .obj Assoc.sorted_nil (fun _ found => by cases found) fun _ _ found => by cases found
  | obj sorted nulls fields => exact .obj sorted nulls fields

/-- A field of a good object. -/
lemma field {new : List (String × Json)} (good : NoNewNull before (.obj new)) (name : String) :
    NoNewNull ((Assoc.find? name before.fieldsOf).getD .null)
      ((Assoc.find? name new).getD .null) := by
  cases good with
  | other scalar => cases scalar
  | obj sorted nulls fields =>
    cases found : Assoc.find? name new with
    | none => exact .other rfl
    | some value => exact fields name value found

lemma erase {new : List (String × Json)} (good : NoNewNull before (.obj new)) (name : String) :
    NoNewNull before (.obj (Assoc.erase name new)) := by
  cases good with
  | other scalar => cases scalar
  | obj sorted nulls fields =>
    refine .obj (Assoc.sorted_erase name sorted) (fun other found => ?_) fun other value found => ?_
    · rw [Assoc.find?_erase] at found
      split at found
      · cases found
      · exact nulls other found
    · rw [Assoc.find?_erase] at found
      split at found
      · cases found
      · exact fields other value found

lemma insert {new : List (String × Json)} (good : NoNewNull before (.obj new)) {name : String}
    {value : Json} (there : value ≠ .null)
    (goodValue : NoNewNull ((Assoc.find? name before.fieldsOf).getD .null) value) :
    NoNewNull before (.obj (Assoc.insert name value new)) := by
  cases good with
  | other scalar => cases scalar
  | obj sorted nulls fields =>
    refine .obj (Assoc.sorted_insert name value sorted) (fun other found => ?_)
      fun other content found => ?_
    · rw [Assoc.find?_insert] at found
      split at found
      · cases found
        exact absurd rfl there
      · exact nulls other found
    · rw [Assoc.find?_insert] at found
      split at found
      · rename_i same
        cases found
        exact same ▸ goodValue
      · exact fields other content found

/-- What is merged is null only if the patch is. -/
lemma merge_ne_null (target : Json) {patch : Json} (there : patch.isNull = false) :
    target.merge patch ≠ .null := by
  cases patch <;> simp_all [Json.merge, isNull]

/-- Merging a patch into a value puts no new null into it. -/
theorem merge (good : NoNewNull before after) (patch : Json) :
    NoNewNull before (after.merge patch) := by
  induction patch using induction_fields generalizing before after with
  | other patch scalar =>
    have same : after.merge patch = patch := by
      cases patch <;> first | rfl | cases scalar
    rw [same]
    exact .other scalar
  | obj patch ih =>
    rw [Json.merge]
    -- the fields of the patch are merged one after the other, each into a good object
    have goodFields := good.fieldsOf_obj
    generalize after.fieldsOf = target at goodFields
    induction patch generalizing target with
    | nil => exact goodFields
    | cons entry rest rest_ih =>
      obtain ⟨name, value⟩ := entry
      rw [mergeFields]
      refine rest_ih (fun other content mem => ih other content (List.mem_cons_of_mem _ mem)) _ ?_
      split
      · exact goodFields.erase name
      · rename_i there
        refine goodFields.insert (merge_ne_null _ (Bool.eq_false_iff.2 there)) ?_
        exact ih name value List.mem_cons_self (goodFields.field name)

lemma foldl_merge (good : NoNewNull before after) (patches : List Json) :
    NoNewNull before (patches.foldl Json.merge after) := by
  induction patches generalizing after with
  | nil => exact good
  | cons patch rest ih => exact ih (good.merge patch)

/-- Merging a difference into the old value gives the new one, if that has no new null. -/
theorem same_merge_diff (good : NoNewNull before after) (canonical : before.Canonical) :
    (before.merge (before.diff after)).same after = true := by
  induction after using induction_fields generalizing before with
  | other after scalar =>
    have same : before.merge (before.diff after) = after := by
      cases after <;> first | rfl | cases scalar
    rw [same]
    exact same_self after
  | obj new ih =>
    cases good with
    | other scalar => cases scalar
    | obj sorted nulls fields =>
      obtain ⟨patch, diff, sortedPatch, find⟩ := before.diff_obj sorted
      rw [diff, Json.merge, same]
      refine sameFields_of_find? (sorted_mergeFields (sorted_fieldsOf canonical) patch) sorted
        fun name => ?_
      rw [find?_mergeFields _ sortedPatch, find name]
      cases found : Assoc.find? name new with
      | none =>
        -- a field that is there no more is removed
        cases had : Assoc.find? name before.fieldsOf <;> simp [Assoc.contains, found, had, isNull]
      | some value =>
        have goodValue := fields name value found
        have mem := Assoc.mem_of_find?_eq_some found
        cases had : Assoc.find? name before.fieldsOf with
        | none =>
          -- a new field stands for itself
          have there : value.isNull = false := by
            refine Bool.eq_false_iff.2 fun null => ?_
            rw [isNull_iff.1 null] at found
            rw [nulls name found] at had
            cases had
          rw [had] at goodValue
          have same := ih name value mem goodValue trivial
          rw [diff_of_not_objects rfl] at same
          simpa [change?, had, there] using same
        | some previous =>
          rw [had] at goodValue
          by_cases kept : previous.same value = true
          · simp [change?, had, kept, Assoc.contains, found]
          · -- a changed field is changed by its own difference, which is not null
            have there : (previous.diff value).isNull = false := by
              rw [isNull_diff]
              refine Bool.eq_false_iff.2 fun null => kept ?_
              rw [isNull_iff.1 null] at found ⊢
              rw [nulls name found] at had
              cases had
              rfl
            have same := ih name value mem goodValue (canonical_find? canonical had)
            simpa [change?, had, kept, there] using same

end NoNewNull

end Json

end Troupe
