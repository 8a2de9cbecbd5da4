import Troupe.Proofs.Json.Paths

/-!
# Merging a difference into another value

A working copy is made of a base, and how it differs from the base is merged into a third
value, which may be anything by then.  What base and working copy agree on stays as the third
value has it (`Json.at?_merge_diff_of_agree`), what the working copy has set is set
(`Json.at?_merge_diff_of_set`), and what it has dropped is dropped
(`Json.at?_merge_diff_of_dropped`).

## Main results

* `Json.threeWay_merge_diff`: all three, for objects.
-/

namespace Troupe.Json

/-! ## Objects on the way -/

/-- An object stands at every proper prefix of a path. -/
def HoldsTo (value : Json) (path : List String) : Prop :=
  ∀ front, front <+: path → front ≠ path → ∃ fields, value.at? front = some (.obj fields)

lemma HoldsTo.object {value : Json} {key : String} {rest : List String}
    (holds : value.HoldsTo (key :: rest)) : ∃ fields, value = .obj fields := by
  obtain ⟨fields, found⟩ := holds [] List.nil_prefix (List.cons_ne_nil _ _).symm
  exact ⟨fields, Option.some.inj found⟩

/-- On the way to a field there is the object alone. -/
lemma holdsTo_singleton {value : Json} (object : value.isObject = true) (key : String) :
    value.HoldsTo [key] := by
  intro front before proper
  rcases List.prefix_cons_iff.1 before with rfl | ⟨rest, rfl, last⟩
  · obtain ⟨fields, rfl⟩ := isObject_iff.1 object
    exact ⟨fields, rfl⟩
  · obtain rfl := List.prefix_nil.1 last
    exact absurd rfl proper

/-- Below a field the rest of the path is held to. -/
lemma HoldsTo.field {value content : Json} {key : String} {rest : List String}
    (holds : value.HoldsTo (key :: rest))
    (found : Assoc.find? key value.fieldsOf = some content) : content.HoldsTo rest := by
  intro front before proper
  obtain ⟨fields, there⟩ := holds (key :: front) (List.cons_prefix_cons.2 ⟨rfl, before⟩)
    fun same => proper (List.cons.inj same).2
  exact ⟨fields, (at?_cons_of_find? found front).symm.trans there⟩

/-- If the path goes on, the field is an object. -/
lemma HoldsTo.find? {value : Json} {key next : String} {rest : List String}
    (holds : value.HoldsTo (key :: next :: rest)) :
    ∃ fields, Assoc.find? key value.fieldsOf = some (.obj fields) := by
  obtain ⟨fields, there⟩ := holds [key] ⟨next :: rest, rfl⟩ (by simp)
  exact ⟨fields, (at?_singleton _ _).symm.trans there⟩

/-! ## Order along paths -/

/-- Every object that is reached through objects has its fields in order. -/
def Ordered (value : Json) : Prop :=
  ∀ path fields, value.at? path = some (.obj fields) → Assoc.Sorted fields

lemma Ordered.sorted {fields : List (String × Json)} (ordered : Ordered (.obj fields)) :
    Assoc.Sorted fields :=
  ordered [] fields rfl

lemma Ordered.field {value content : Json} {key : String} (ordered : value.Ordered)
    (found : Assoc.find? key value.fieldsOf = some content) : content.Ordered :=
  fun path fields there => ordered (key :: path) fields ((at?_cons_of_find? found path).trans there)

lemma Canonical.ordered {value : Json} (canonical : value.Canonical) : value.Ordered := by
  intro path fields there
  induction path generalizing value with
  | nil =>
    cases there
    rw [Canonical] at canonical
    exact canonical.1
  | cons key rest ih =>
    obtain ⟨content, found, below⟩ := at?_cons_eq_some.1 there
    exact ih (canonical_find? canonical found) below

/-- A value without new nulls is in order. -/
lemma NoNewNull.ordered {before after : Json} (good : NoNewNull before after) : after.Ordered := by
  intro path fields there
  induction path generalizing before after with
  | nil =>
    cases there
    cases good with
    | other scalar => cases scalar
    | obj sorted nulls fields => exact sorted
  | cons key rest ih =>
    obtain ⟨content, found, below⟩ := at?_cons_eq_some.1 there
    cases good with
    | other scalar => rw [fieldsOf_of_not_object scalar] at found; cases found
    | obj sorted nulls fields => exact ih (fields key content found) below

/-! ## Fields -/

section Fields

variable {base working current : Json} {new : List (String × Json)} {key : String}

/-- A difference to what is no object, merged into anything, gives it. -/
lemma merge_diff_of_not_object (scalar : working.isObject = false) :
    current.merge (base.diff working) = working := by
  rw [diff_of_not_objects (by rw [scalar, Bool.and_false]), merge_of_not_object scalar]

/-- The field of a merged difference, from what the difference says of it. -/
lemma find?_merge_diff (sorted : Assoc.Sorted new) (key : String) :
    Assoc.find? key (current.merge (base.diff (.obj new))).fieldsOf =
      match ((Assoc.find? key new).bind (change? base.fieldsOf key)).or
        (if Assoc.contains key base.fieldsOf && !Assoc.contains key new then some .null
          else none) with
      | none => Assoc.find? key current.fieldsOf
      | some value =>
        if value.isNull then none
        else some (((Assoc.find? key current.fieldsOf).getD .null).merge value) := by
  obtain ⟨patch, diff, sortedPatch, find⟩ := base.diff_obj sorted
  rw [diff, merge, fieldsOf]
  exact (find?_mergeFields _ sortedPatch key).trans (find key ▸ rfl)

/-- A field that is equal in base and working copy, or missing in both, stays. -/
lemma find?_merge_diff_of_agree (sorted : Assoc.Sorted new)
    (agree : Agree (Assoc.find? key base.fieldsOf) (Assoc.find? key new)) :
    Assoc.find? key (current.merge (base.diff (.obj new))).fieldsOf =
      Assoc.find? key current.fieldsOf := by
  rw [find?_merge_diff sorted]
  cases had : Assoc.find? key base.fieldsOf <;> cases found : Assoc.find? key new <;>
    simp_all [Agree, change?, Assoc.contains]

/-- A field that the working copy has dropped is dropped. -/
lemma find?_merge_diff_of_dropped (sorted : Assoc.Sorted new) {previous : Json}
    (had : Assoc.find? key base.fieldsOf = some previous) (dropped : Assoc.find? key new = none) :
    Assoc.find? key (current.merge (base.diff (.obj new))).fieldsOf = none := by
  rw [find?_merge_diff sorted]
  simp [had, dropped, Assoc.contains, isNull]

/-- A field that the working copy has changed has the difference merged into it; a missing one
counts as null. -/
lemma find?_merge_diff_of_changed (sorted : Assoc.Sorted new) {value : Json}
    (found : Assoc.find? key new = some value)
    (changed : ¬ Agree (Assoc.find? key base.fieldsOf) (some value)) (there : value ≠ .null) :
    Assoc.find? key (current.merge (base.diff (.obj new))).fieldsOf =
      some (((Assoc.find? key current.fieldsOf).getD .null).merge
        (((Assoc.find? key base.fieldsOf).getD .null).diff value)) := by
  have notNull : value.isNull = false := Bool.eq_false_iff.2 fun null => there (isNull_iff.1 null)
  rw [find?_merge_diff sorted]
  cases had : Assoc.find? key base.fieldsOf with
  | none =>
    have same : Json.null.diff value = value := diff_of_not_objects rfl
    simp [found, had, change?, notNull, same]
  | some previous =>
    have other : previous.same value = false := Bool.eq_false_iff.2 fun same => changed (by
      rw [had]
      exact same)
    simp [found, had, change?, other, isNull_diff, notNull]

/-- A field that is a text in the working copy is that text, if it was another one in the base or is
what it was there. -/
lemma find?_merge_diff_of_text (sorted : Assoc.Sorted new) {text : String}
    (found : Assoc.find? key new = some (.str text))
    (kept : Assoc.find? key current.fieldsOf = Assoc.find? key base.fieldsOf ∨
      Assoc.find? key base.fieldsOf ≠ some (.str text)) :
    Assoc.find? key (current.merge (base.diff (.obj new))).fieldsOf = some (.str text) := by
  by_cases agree : Agree (Assoc.find? key base.fieldsOf) (some (.str text))
  · have same : Assoc.find? key base.fieldsOf = some (.str text) := by
      cases had : Assoc.find? key base.fieldsOf with
      | none => rw [had] at agree; exact agree.elim
      | some previous =>
        rw [had] at agree
        exact congrArg some (eq_str_of_same agree)
    rw [find?_merge_diff_of_agree sorted (found ▸ agree), kept.resolve_right (not_not.2 same), same]
  · rw [find?_merge_diff_of_changed sorted found agree nofun,
      diff_of_not_objects (Bool.and_false _), merge_of_not_object rfl]

/-- A field that has become null is dropped, for a patch cannot say otherwise. -/
lemma find?_merge_diff_of_nulled (sorted : Assoc.Sorted new)
    (found : Assoc.find? key new = some .null)
    (changed : ¬ Agree (Assoc.find? key base.fieldsOf) (some .null)) :
    Assoc.find? key (current.merge (base.diff (.obj new))).fieldsOf = none := by
  rw [find?_merge_diff sorted]
  cases had : Assoc.find? key base.fieldsOf with
  | none => simp [found, had, change?, isNull]
  | some previous =>
    have other : previous.same .null = false := Bool.eq_false_iff.2 fun same => changed (by
      rw [had]
      exact same)
    have null : (previous.diff .null).isNull = true := isNull_diff previous .null
    simp [found, had, change?, other, null]

/-- The difference of equal objects changes nothing. -/
lemma merge_diff_of_same {old now : List (String × Json)} (sorted : Assoc.Sorted new)
    (same : sameFields old new = true) : merge (.obj now) (diff (.obj old) (.obj new)) = .obj now := by
  obtain ⟨patch, diff, -, find⟩ := (obj old).diff_obj sorted
  have nothing : patch = [] := by
    cases patch with
    | nil => rfl
    | cons entry rest =>
      have head := find entry.1
      have agree := agree_find? same entry.1
      rw [Assoc.find?_cons, if_pos rfl] at head
      cases had : Assoc.find? entry.1 old <;> cases found : Assoc.find? entry.1 new <;>
        simp_all [Agree, change?, Assoc.contains, fieldsOf]
  rw [diff, nothing]
  rfl

end Fields

/-! ## The three laws -/

variable {base working current : Json}

/-- What base and working copy agree on stays as it is. -/
theorem at?_merge_diff_of_agree (ordered : working.Ordered) {key : String} {rest : List String}
    (baseHolds : base.HoldsTo (key :: rest)) (workingHolds : working.HoldsTo (key :: rest))
    (currentHolds : current.HoldsTo (key :: rest))
    (agree : Agree (base.at? (key :: rest)) (working.at? (key :: rest))) :
    (current.merge (base.diff working)).at? (key :: rest) = current.at? (key :: rest) := by
  induction rest generalizing base working current key with
  | nil =>
    obtain ⟨new, rfl⟩ := workingHolds.object
    rw [at?_singleton, at?_singleton] at agree ⊢
    exact find?_merge_diff_of_agree ordered.sorted agree
  | cons next rest ih =>
    obtain ⟨new, rfl⟩ := workingHolds.object
    obtain ⟨before, had⟩ := baseHolds.find?
    obtain ⟨after, found⟩ := workingHolds.find?
    obtain ⟨now, there⟩ := currentHolds.find?
    by_cases same : Agree (some (.obj before)) (some (.obj after))
    · -- the objects on the way are equal, and the difference says nothing of them
      have kept : Assoc.find? key (current.merge (base.diff (.obj new))).fieldsOf =
          Assoc.find? key current.fieldsOf :=
        find?_merge_diff_of_agree ordered.sorted (by rw [had]; exact found ▸ same)
      rw [at?_cons, at?_cons, kept]
    · -- else their difference is merged into the third object
      have changed : Assoc.find? key (current.merge (base.diff (.obj new))).fieldsOf = _ :=
        find?_merge_diff_of_changed ordered.sorted found (had ▸ same) nofun
      rw [at?_cons_of_find? changed, at?_cons_of_find? there, had, there]
      rw [at?_cons_of_find? had, at?_cons_of_find? found] at agree
      exact ih (ordered.field found) (baseHolds.field had) (workingHolds.field found)
        (currentHolds.field there) agree

/-- What the working copy has set is set. -/
theorem at?_merge_diff_of_set (ordered : working.Ordered) {path : List String} {leaf : Json}
    (set : working.at? path = some leaf) (scalar : leaf.isObject = false) (there : leaf ≠ .null)
    (changed : ¬ Agree (base.at? path) (some leaf)) :
    (current.merge (base.diff working)).at? path = some leaf := by
  induction path generalizing base working current with
  | nil =>
    cases set
    rw [merge_diff_of_not_object scalar, at?_nil]
  | cons key rest ih =>
    obtain ⟨value, found, below⟩ := at?_cons_eq_some.1 set
    obtain ⟨new, rfl⟩ : ∃ new, working = .obj new := by
      cases working <;> first | exact ⟨_, rfl⟩ | cases found
    have notNull : value ≠ .null := by
      rintro rfl
      cases rest with
      | nil => exact there (Option.some.inj below).symm
      | cons next rest => rw [at?_of_not_object rfl (List.cons_ne_nil _ _)] at below; cases below
    -- where the base has no such field, it is as good as null
    have changed' : ¬ Agree (((Assoc.find? key base.fieldsOf).getD .null).at? rest)
        (some leaf) := by
      cases had : Assoc.find? key base.fieldsOf with
      | some previous => rwa [at?_cons_of_find? had] at changed
      | none =>
        cases rest with
        | nil =>
          rw [Option.getD_none, at?_nil]
          cases leaf <;> first | exact absurd rfl there | exact Bool.false_ne_true
        | cons next rest =>
          rw [Option.getD_none, at?_of_not_object rfl (List.cons_ne_nil _ _)]
          exact not_false
    have different : ¬ Agree (Assoc.find? key base.fieldsOf) (some value) := by
      cases had : Assoc.find? key base.fieldsOf with
      | none => exact not_false
      | some previous =>
        intro same
        rw [had] at changed'
        exact changed' (below ▸ agree_at? same rest)
    rw [at?_cons_of_find? (find?_merge_diff_of_changed ordered.sorted found different notNull)]
    exact ih (ordered.field found) below changed'

/-- What the working copy has dropped is dropped. -/
theorem at?_merge_diff_of_dropped (ordered : working.Ordered) {path : List String} {old : Json}
    (had : base.at? path = some old) (dropped : working.at? path = none) :
    (current.merge (base.diff working)).at? path = none := by
  induction path generalizing base working current with
  | nil => cases dropped
  | cons key rest ih =>
    obtain ⟨previous, before, had⟩ := at?_cons_eq_some.1 had
    by_cases object : working.isObject = true
    · obtain ⟨new, rfl⟩ := isObject_iff.1 object
      cases found : Assoc.find? key new with
      | none => exact at?_cons_of_missing (find?_merge_diff_of_dropped ordered.sorted before found) _
      | some value =>
        have below : value.at? rest = none := (at?_cons_of_find? found rest).symm.trans dropped
        have different : ¬ Agree (Assoc.find? key base.fieldsOf) (some value) := by
          intro same
          rw [before] at same
          have agree := agree_at? same rest
          rw [had, below] at agree
          exact agree
        by_cases null : value = .null
        · cases null
          exact at?_cons_of_missing (find?_merge_diff_of_nulled ordered.sorted found different) _
        · rw [at?_cons_of_find?
            (find?_merge_diff_of_changed ordered.sorted found different null), before]
          exact ih (ordered.field found) had below
    · rw [merge_diff_of_not_object (Bool.eq_false_iff.2 object)]
      exact dropped

/-- What becomes of a third object when the difference of two objects is merged into it. -/
structure ThreeWay (base working current merged : Json) : Prop where
  /-- Where base and working copy agree, with objects all the way, and the third has objects
  there too, it stays as it is. -/
  kept : ∀ path, base.HoldsTo path → working.HoldsTo path → current.HoldsTo path →
    Agree (base.at? path) (working.at? path) → merged.at? path = current.at? path
  /-- A value that the working copy has, no object and not null, is set if the base does not
  have it. -/
  set : ∀ path leaf, working.at? path = some leaf → leaf.isObject = false → leaf ≠ .null →
    ¬ Agree (base.at? path) (some leaf) → merged.at? path = some leaf
  /-- A member of the base that the working copy lacks is dropped. -/
  dropped : ∀ path old, base.at? path = some old → working.at? path = none →
    merged.at? path = none

/-- **The difference of two objects, merged into a third, changes it where the two differ and
nowhere else.** -/
theorem threeWay_merge_diff (old now : List (String × Json)) {new : List (String × Json)}
    (ordered : Ordered (.obj new)) :
    ThreeWay (.obj old) (.obj new) (.obj now) (merge (.obj now) (diff (.obj old) (.obj new))) where
  kept path baseHolds workingHolds currentHolds agree := by
    cases path with
    | nil => rw [merge_diff_of_same ordered.sorted agree]
    | cons key rest =>
      exact at?_merge_diff_of_agree ordered baseHolds workingHolds currentHolds agree
  set path leaf set scalar there changed := at?_merge_diff_of_set ordered set scalar there changed
  dropped path old had dropped := at?_merge_diff_of_dropped ordered had dropped

end Troupe.Json
