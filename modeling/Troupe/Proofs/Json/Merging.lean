import Troupe.Proofs.Json.Paths

/-!
# Merge patches, as specified

`Json.Merges` is what RFC 7396 says of a target, a patch and a result, field by field, with no
word on the order in which the fields are visited.  `Json.merge` goes through them one after the
other, and comes to the one result that the specification allows.

## Main results

* `Json.merges_iff`: merging is what the specification says, and nothing else is;
* `Json.merge_merge`: merging a patch again changes nothing.
-/

namespace Troupe

namespace Json

/-- What a patch makes of a target. -/
inductive Merges : (target patch result : Json) → Prop
  /-- A patch that is no object takes the place of the target. -/
  | replace {target patch : Json} (scalar : patch.isObject = false) : Merges target patch patch
  /-- A patch that is an object is applied to the fields of the target, or to no fields if the
  target is no object: the fields that it does not name stay, those that it maps to null go, and
  its other values are merged into the fields that they name. -/
  | object {target : Json} {patch result : List (String × Json)} (sorted : Assoc.Sorted result)
    (kept : ∀ name, Assoc.find? name patch = none →
      Assoc.find? name result = Assoc.find? name target.fieldsOf)
    (removed : ∀ name, Assoc.find? name patch = some .null → Assoc.find? name result = none)
    (there : ∀ name value, Assoc.find? name patch = some value → value ≠ .null →
      Assoc.find? name result ≠ none)
    (merged : ∀ name value content, Assoc.find? name patch = some value → value ≠ .null →
      Assoc.find? name result = some content →
        Merges ((Assoc.find? name target.fieldsOf).getD .null) value content) :
    Merges target (.obj patch) (.obj result)

lemma canonical_getD {value : Json} (canonical : value.Canonical) (name : String) :
    ((Assoc.find? name value.fieldsOf).getD .null).Canonical := by
  cases found : Assoc.find? name value.fieldsOf with
  | none => trivial
  | some content => exact canonical_find? canonical found

section Merge

variable {target : Json} {patch : List (String × Json)} {name : String}

/-- A field that the patch does not name, of what is merged. -/
lemma find?_merge_of_missing (sorted : Assoc.Sorted patch) (missing : Assoc.find? name patch = none) :
    Assoc.find? name (target.merge (.obj patch)).fieldsOf = Assoc.find? name target.fieldsOf := by
  rw [merge, fieldsOf, find?_mergeFields _ sorted, missing]

/-- A field that the patch removes. -/
lemma find?_merge_of_null (sorted : Assoc.Sorted patch)
    (removed : Assoc.find? name patch = some .null) :
    Assoc.find? name (target.merge (.obj patch)).fieldsOf = none := by
  rw [merge, fieldsOf, find?_mergeFields _ sorted, removed]
  rfl

/-- A field that the patch merges a value into. -/
lemma find?_merge_of_value (sorted : Assoc.Sorted patch) {value : Json}
    (found : Assoc.find? name patch = some value) (there : value ≠ .null) :
    Assoc.find? name (target.merge (.obj patch)).fieldsOf =
      some (((Assoc.find? name target.fieldsOf).getD .null).merge value) := by
  have notNull : value.isNull = false := Bool.eq_false_iff.2 fun null => there (isNull_iff.1 null)
  rw [merge, fieldsOf, find?_mergeFields _ sorted, found]
  simp [notNull]

end Merge

/-- Merging is as specified. -/
lemma merges_merge {target patch : Json} (canonical : target.Canonical)
    (canonical' : patch.Canonical) : Merges target patch (target.merge patch) := by
  induction patch using induction_fields generalizing target with
  | other patch scalar =>
    rw [merge_of_not_object scalar]
    exact .replace scalar
  | obj patch ih =>
    rw [Canonical] at canonical'
    obtain ⟨sorted, fields⟩ := canonical'
    refine .object (sorted_mergeFields (sorted_fieldsOf canonical) patch)
      (fun name missing => find?_merge_of_missing sorted missing)
      (fun name removed => find?_merge_of_null sorted removed) (fun name value found there => ?_)
      fun name value content found there result => ?_
    · exact Option.ne_none_iff_exists'.2 ⟨_, find?_merge_of_value sorted found there⟩
    · have mem := Assoc.mem_of_find?_eq_some found
      obtain rfl := Option.some.inj ((find?_merge_of_value sorted found there).symm.trans result)
      exact ih name value mem (canonical_getD canonical name) (fields.of_mem mem)

/-- The specification allows one result. -/
lemma Merges.unique {target patch result other : Json} (first : Merges target patch result)
    (second : Merges target patch other) : result = other := by
  induction patch using induction_fields generalizing target result other with
  | other patch scalar =>
    cases first <;> cases second <;> first | rfl | cases scalar
  | obj patch ih =>
    cases first with
    | replace scalar => cases scalar
    | @object _ _ left sorted kept removed there merged =>
      cases second with
      | replace scalar => cases scalar
      | @object _ _ right sorted' kept' removed' there' merged' =>
        have same : ∀ name, Assoc.find? name left = Assoc.find? name right := by
          intro name
          cases found : Assoc.find? name patch with
          | none => rw [kept name found, kept' name found]
          | some value =>
            by_cases null : value = .null
            · subst null
              rw [removed name found, removed' name found]
            · obtain ⟨content, result⟩ := Option.ne_none_iff_exists'.1 (there name value found null)
              obtain ⟨content', result'⟩ := Option.ne_none_iff_exists'.1 (there' name value found null)
              rw [result, result', ih name value (Assoc.mem_of_find?_eq_some found)
                (merged name value content found null result)
                (merged' name value content' found null result')]
        rw [Assoc.eq_of_find?_eq sorted sorted' same]

/-- What is merged is in order if both are. -/
lemma Merges.canonical {target patch result : Json} (merges : Merges target patch result)
    (canonical : target.Canonical) (canonical' : patch.Canonical) : result.Canonical := by
  induction merges with
  | replace scalar => exact canonical'
  | @object target patch result sorted kept removed there merged ih =>
    refine canonical_obj sorted fun name content found => ?_
    cases named : Assoc.find? name patch with
    | none => exact canonical_find? canonical ((kept name named).symm.trans found)
    | some value =>
      have stays : value ≠ .null := by
        rintro rfl
        cases (removed name named).symm.trans found
      exact ih name value content named stays found (canonical_getD canonical name)
        (canonical_find? canonical' named)

/-- What is merged, again in order. -/
def Document.merge (target patch : Document) : Document where
  value := target.value.merge patch.value
  canonical := (merges_merge target.canonical patch.canonical).canonical target.canonical
    patch.canonical

/-- Merging is what the specification says, and nothing else is. -/
theorem merges_iff (target patch : Document) {result : Json} :
    Merges target.value patch.value result ↔ result = (target.merge patch).value := by
  have specified : Merges target.value patch.value (target.merge patch).value :=
    merges_merge target.canonical patch.canonical
  exact ⟨fun merges => merges.unique specified, fun same => same ▸ specified⟩

lemma merge_again {target patch : Json} (canonical : target.Canonical)
    (canonical' : patch.Canonical) : (target.merge patch).merge patch = target.merge patch := by
  induction patch using induction_fields generalizing target with
  | other patch scalar => rw [merge_of_not_object scalar, merge_of_not_object scalar]
  | obj patch ih =>
    rw [Canonical] at canonical'
    obtain ⟨sorted, fields⟩ := canonical'
    have sortedOnce := sorted_mergeFields (sorted_fieldsOf canonical) patch
    -- both are objects in order, so it is enough to look at each field
    refine congrArg Json.obj
      (Assoc.eq_of_find?_eq (sorted_mergeFields sortedOnce patch) sortedOnce fun name => ?_)
    change Assoc.find? name ((target.merge (.obj patch)).merge (.obj patch)).fieldsOf =
      Assoc.find? name (target.merge (.obj patch)).fieldsOf
    cases found : Assoc.find? name patch with
    | none => exact find?_merge_of_missing sorted found
    | some value =>
      by_cases null : value = .null
      · subst null
        rw [find?_merge_of_null sorted found, find?_merge_of_null sorted found]
      · have mem := Assoc.mem_of_find?_eq_some found
        rw [find?_merge_of_value sorted found null, find?_merge_of_value sorted found null,
          Option.getD_some, ih name value mem (canonical_getD canonical name) (fields.of_mem mem)]

/-- Merging a patch again changes nothing. -/
theorem merge_merge (target patch : Document) :
    (target.merge patch).merge patch = target.merge patch :=
  Document.ext (merge_again target.canonical patch.canonical)

end Json

end Troupe
