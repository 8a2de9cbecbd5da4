import Troupe.Json.Reader
import Troupe.Proofs.Json.Patch

/-!
# Documents, and paths through them

A document is a value whose objects have their fields in order (`Json.Document`), as all those
have that are read from a text.

A path is a list of keys, followed from a value into its fields (`Json.at?`); a list is a leaf
here, as it is for a merge patch.  Two values agree at a path if both have no member there, or
equal ones (`Json.Agree`).

The one thing that a merge patch cannot do is to put a null: the difference of two values,
merged into the first, gives the second if and only if every null member of the second stands
in the first already.

## Main results

* `Json.canonical_arrange`: what is read is a document;
* `Json.agree_at?`: equal values agree at every path;
* `Json.noNewNull_iff`: what `Json.NoNewNull` says, in terms of paths;
* `Json.diff_faithful`: when a difference is a faithful patch.
-/

namespace Troupe.Json

/-! ## Order -/

lemma canonicalItems_of_forall {items : List Json} (all : ∀ item ∈ items, item.Canonical) :
    CanonicalItems items := by
  induction items with
  | nil => trivial
  | cons item rest ih =>
    rw [List.forall_mem_cons] at all
    exact ⟨all.1, ih all.2⟩

/-- An object is canonical if its fields are in order and what can be looked up in it is. -/
lemma canonical_obj {fields : List (String × Json)} (sorted : Assoc.Sorted fields)
    (all : ∀ name value, Assoc.find? name fields = some value → value.Canonical) :
    (Json.obj fields).Canonical := by
  have entries : ∀ entry ∈ fields, entry.2.Canonical := fun entry mem =>
    all entry.1 entry.2 (Assoc.find?_eq_some_of_mem sorted mem)
  rw [Canonical]
  refine ⟨sorted, ?_⟩
  clear sorted all
  induction fields with
  | nil => trivial
  | cons entry rest ih =>
    rw [List.forall_mem_cons] at entries
    exact ⟨entries.1, ih entries.2⟩

mutual

/-- What is put in order is canonical, -/
theorem canonical_arrange : ∀ value : Json, value.arrange.Canonical
  | .null | .bool _ | .num _ | .str _ => trivial
  | .arr items => canonicalItems_of_forall (canonical_arrangeItems items)
  | .obj fields => by
    refine canonical_obj (Assoc.sorted_ofList _) fun name value found => ?_
    rw [Assoc.find?_ofList] at found
    exact canonical_arrangeFields fields (name, value)
      (List.mem_reverse.1 (Assoc.mem_of_find?_eq_some found))

/-- in every item of a list -/
theorem canonical_arrangeItems : ∀ items : List Json, ∀ item ∈ arrangeItems items, item.Canonical
  | [] => fun _ mem => nomatch mem
  | item :: rest =>
    List.forall_mem_cons.2 ⟨canonical_arrange item, canonical_arrangeItems rest⟩

/-- and in every field of an object. -/
theorem canonical_arrangeFields : ∀ fields : List (String × Json),
    ∀ field ∈ arrangeFields fields, field.2.Canonical
  | [] => fun _ mem => nomatch mem
  | (_, value) :: rest =>
    List.forall_mem_cons.2 ⟨canonical_arrange value, canonical_arrangeFields rest⟩

end

/-- A document: a value that has the fields of every object in order. -/
@[ext]
structure Document where
  /-- The value. -/
  value : Json
  /-- Its objects are in order. -/
  canonical : value.Canonical

/-- The document that a value is read as: a text is parsed, and what comes of it is put in order
(`Json.ofText?`). -/
def Document.ofParsed (parsed : Json) : Document := ⟨parsed.arrange, canonical_arrange parsed⟩

/-! ## Paths -/

/-- The value that a path leads to. -/
def at? : (value : Json) → (path : List String) → Option Json
  | value, [] => some value
  | value, key :: rest => (Assoc.find? key value.fieldsOf).bind fun content => content.at? rest

@[simp] lemma at?_nil (value : Json) : value.at? [] = some value := rfl

lemma at?_cons (value : Json) (key : String) (rest : List String) :
    value.at? (key :: rest) =
      (Assoc.find? key value.fieldsOf).bind fun content => content.at? rest := rfl

lemma at?_cons_of_find? {value content : Json} {key : String}
    (found : Assoc.find? key value.fieldsOf = some content) (rest : List String) :
    value.at? (key :: rest) = content.at? rest := by
  rw [at?_cons, found, Option.bind_some]

lemma at?_cons_of_missing {value : Json} {key : String}
    (missing : Assoc.find? key value.fieldsOf = none) (rest : List String) :
    value.at? (key :: rest) = none := by
  rw [at?_cons, missing, Option.bind_none]

/-- Where a path through a field leads. -/
lemma at?_cons_eq_some {value content : Json} {key : String} {rest : List String} :
    value.at? (key :: rest) = some content ↔
      ∃ field, Assoc.find? key value.fieldsOf = some field ∧ field.at? rest = some content := by
  rw [at?_cons, Option.bind_eq_some_iff]

lemma at?_singleton (value : Json) (key : String) :
    value.at? [key] = Assoc.find? key value.fieldsOf := by
  simp [at?_cons]

lemma isObject_iff {value : Json} : value.isObject = true ↔ ∃ fields, value = .obj fields := by
  cases value <;> simp [isObject]

lemma field?_eq_find? (value : Json) (name : String) :
    value.field? name = Assoc.find? name value.fieldsOf := by
  cases value <;> rfl

lemma fieldsOf_of_not_object {value : Json} (scalar : value.isObject = false) :
    value.fieldsOf = [] := by
  cases value <;> first | rfl | cases scalar

lemma merge_of_not_object {target patch : Json} (scalar : patch.isObject = false) :
    target.merge patch = patch := by
  cases patch <;> first | rfl | cases scalar

/-- A path ends at a value that is no object. -/
lemma at?_of_not_object {value : Json} (scalar : value.isObject = false) {path : List String}
    (longer : path ≠ []) : value.at? path = none := by
  cases path with
  | nil => exact absurd rfl longer
  | cons key rest => exact at?_cons_of_missing (by rw [fieldsOf_of_not_object scalar]; rfl) rest

/-! ## Agreement -/

/-- Two values that may be missing agree if both are, or if they are equal. -/
def Agree : (left right : Option Json) → Prop
  | some left, some right => left.same right = true
  | none, none => True
  | _, _ => False

lemma Agree.refl (value : Option Json) : Agree value value := by
  cases value with
  | none => trivial
  | some value => exact same_self value

/-- Nothing but null equals null. -/
lemma same_null {value : Json} : value.same .null = true ↔ value = .null := by
  cases value <;> simp [same]

lemma agree_null {value : Option Json} : Agree value (some .null) ↔ value = some .null := by
  cases value <;> simp [Agree, same_null]

/-- Equal objects have equal fields. -/
lemma agree_find? {left right : List (String × Json)} (same : sameFields left right = true)
    (name : String) : Agree (Assoc.find? name left) (Assoc.find? name right) := by
  induction left generalizing right with
  | nil =>
    cases right with
    | nil => trivial
    | cons entry rest => cases same
  | cons head rest ih =>
    obtain ⟨k, a⟩ := head
    cases right with
    | nil => cases same
    | cons head' rest' =>
      obtain ⟨l, b⟩ := head'
      simp only [sameFields, Bool.and_eq_true, beq_iff_eq] at same
      obtain ⟨⟨rfl, equal⟩, tail⟩ := same
      rw [Assoc.find?_cons, Assoc.find?_cons]
      split
      · exact equal
      · exact ih tail

/-- The fields of equal values are equal. -/
lemma sameFields_fieldsOf {left right : Json} (same : left.same right = true) :
    sameFields left.fieldsOf right.fieldsOf = true := by
  cases left <;> cases right <;> first | exact same | rfl | cases same

/-- Equal values agree at every path. -/
theorem agree_at? {left right : Json} (same : left.same right = true) (path : List String) :
    Agree (left.at? path) (right.at? path) := by
  induction path generalizing left right with
  | nil => exact same
  | cons key rest ih =>
    have field := agree_find? (sameFields_fieldsOf same) key
    rw [at?_cons, at?_cons]
    cases found : Assoc.find? key left.fieldsOf with
    | none =>
      cases found' : Assoc.find? key right.fieldsOf with
      | none => trivial
      | some b => simp only [found, found', Agree] at field
    | some a =>
      cases found' : Assoc.find? key right.fieldsOf with
      | none => simp only [found, found', Agree] at field
      | some b =>
        rw [found, found'] at field
        exact ih field

/-! ## Nulls -/

/-- Every null member of the second value, reached through objects only, stands as null at the
same path in the first. -/
def NullsStand (before after : Json) : Prop :=
  ∀ path, path ≠ [] → after.at? path = some .null → before.at? path = some .null

/-- A value that has no member at a path is as good there as null in its place. -/
lemma at?_getD_null {value : Option Json} {path : List String} (longer : path ≠ [])
    (null : (value.getD .null).at? path = some .null) :
    (value.bind fun content => content.at? path) = some .null := by
  cases value with
  | none => rw [Option.getD_none, at?_of_not_object rfl longer] at null; cases null
  | some content => exact null

/-- In terms of paths: no null is new. -/
lemma NoNewNull.nullsStand {before after : Json} (good : NoNewNull before after) :
    NullsStand before after := by
  intro path longer null
  induction path generalizing before after with
  | nil => exact absurd rfl longer
  | cons key rest ih =>
    cases good with
    | other scalar => rw [at?_of_not_object scalar longer] at null; cases null
    | @obj _ new sorted nulls fields =>
      obtain ⟨field, found, null⟩ := at?_cons_eq_some.1 null
      rw [at?_cons]
      cases rest with
      | nil =>
        cases null
        rw [nulls key found, Option.bind_some, at?_nil]
      | cons next rest =>
        have nonempty : next :: rest ≠ [] := List.cons_ne_nil _ _
        exact at?_getD_null nonempty (ih (fields key field found) nonempty null)

/-- A value in order whose nulls all stand has no new null. -/
lemma NullsStand.noNewNull {before after : Json} (stand : NullsStand before after)
    (canonical : after.Canonical) : NoNewNull before after := by
  induction after using induction_fields generalizing before with
  | other after scalar => exact .other scalar
  | obj new ih =>
    rw [Canonical] at canonical
    refine .obj canonical.1 (fun name found => ?_) fun name value found => ?_
    · have null := stand [name] (List.cons_ne_nil _ _) ((at?_singleton _ _).trans found)
      rwa [at?_singleton] at null
    · have mem := Assoc.mem_of_find?_eq_some found
      refine ih name value mem (fun path longer null => ?_) (canonical.2.of_mem mem)
      have there := stand (name :: path) (List.cons_ne_nil _ _)
        ((at?_cons_of_find? found path).trans null)
      obtain ⟨field, had, null⟩ := at?_cons_eq_some.1 there
      rw [had, Option.getD_some]
      exact null

/-- No null of a document is new if and only if all its nulls stand. -/
theorem noNewNull_iff {before : Json} (after : Document) :
    NoNewNull before after.value ↔ NullsStand before after.value :=
  ⟨NoNewNull.nullsStand, fun stand => stand.noNewNull after.canonical⟩

/-- **A difference is a faithful patch if and only if it would not have to put a null**: merged
into the old value it gives the new one exactly when every null member of the new value stands
at the same path in the old.  It always does for what merge patches have made of the old
value. -/
theorem diff_faithful (before after : Document) :
    ((before.value.merge (before.value.diff after.value)).same after.value = true ↔
      NullsStand before.value after.value) ∧
    ∀ patches : List Json,
      (before.value.merge (before.value.diff (patches.foldl merge before.value))).same
        (patches.foldl merge before.value) = true := by
  have kept : NoNewNull before.value before.value := .refl before.canonical
  refine ⟨⟨fun same path longer null => ?_, fun stand => ?_⟩, fun patches => ?_⟩
  · -- what was merged has the null as well, and a merge puts no new one
    have merged : (before.value.merge (before.value.diff after.value)).at? path = some .null :=
      agree_null.1 (null ▸ agree_at? same path)
    exact (kept.merge _).nullsStand path longer merged
  · exact ((noNewNull_iff after).2 stand).same_merge_diff before.canonical
  · exact (kept.foldl_merge patches).same_merge_diff before.canonical

namespace Sample

/-- An object with a null two levels down. -/
def nested : Document := .ofParsed (.obj [("a", .obj [("b", .null), ("c", .bool true)])])

/-- The same null, the field beside it gone, and a new field. -/
def renested : Document := .ofParsed (.obj [("a", .obj [("b", .null)]), ("d", .arr [.null])])

/-- No fields. -/
def bare : Document := .ofParsed .empty

end Sample

/-- A null that stands is carried through a difference, and one that does not is lost. -/
theorem diff_carries_null :
    NullsStand Sample.nested.value Sample.renested.value ∧
      ¬ NullsStand Sample.bare.value Sample.nested.value := by
  refine ⟨(diff_faithful _ _).1.1 (by decide +kernel), fun stand => ?_⟩
  exact absurd ((diff_faithful _ _).1.2 stand) (by decide +kernel)

end Troupe.Json
