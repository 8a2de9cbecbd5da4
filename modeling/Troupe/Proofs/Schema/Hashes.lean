import Troupe.Proofs.Json.Quotes
import Troupe.Proofs.Table
import Troupe.Schema.Registry

/-!
# What the hash of a schema tells apart

The hash of a registered schema is taken of its name, a bar and its text.  The three together
determine the name and the text, bars in either of them notwithstanding.  So as long as Blake3 does
not give one hash to two of the inputs that have been hashed (`Schema.Separates`; there are more
inputs than hashes, so no function could keep all of them apart), two registrations have the same
hash exactly if they have the same name and the same text.

## Main results

* `Schema.hashedText_inj`: what is hashed determines the name and the text of the schema;
* `Schema.Registry.Runs.registered`: what a registry holds was registered;
* `Schema.hashes_separate`: registrations with one hash.
-/

namespace Troupe.Schema

/-- What is hashed determines the name and the text of the schema. -/
theorem hashedText_inj {name other : String} {schema schema' : Json} :
    hashedText name schema = hashedText other schema' ↔
      name = other ∧ schema.text = schema'.text := by
  have chars : ∀ (name : String) (schema : Json),
      (hashedText name schema).toList = name.toList ++ '|' :: schema.chars := by
    intro name schema
    simp [hashedText, Json.text]
  rw [← String.toList_inj, chars, chars, Json.name_bar_text_inj, String.toList_inj, Json.text,
    Json.text, String.ofList_inj]

/-- The bytes that the hash of a definition is taken of. -/
def Definition.hashed (definition : Definition) : List UInt8 :=
  (hashedText definition.name definition.schema).toUTF8.data.toList

lemma Definition.hashed_inj {first second : Definition} :
    first.hashed = second.hashed ↔
      first.name = second.name ∧ first.schema.text = second.schema.text := by
  rw [← hashedText_inj, hashed, hashed, Array.toList_inj, ← String.toByteArray_inj]
  exact ⟨ByteArray.ext, congrArg ByteArray.data⟩

/-- Blake3 gives different hashes to different ones of these inputs. -/
def Separates (inputs : List (List UInt8)) : Prop :=
  ∀ first ∈ inputs, ∀ second ∈ inputs,
    Blake3.hashText first = Blake3.hashText second → first = second

namespace Registry

/-- A registry that registrations have led to, one after the other, with the definitions that it
had under the registered names right after each of them, the latest first. -/
inductive Runs : (registry : Registry) → (past : List Definition) → Prop
  /-- Nothing has been registered. -/
  | empty : Runs ⟨∅⟩ []
  /-- A schema is registered. -/
  | register {registry : Registry} {past : List Definition} (runs : Runs registry past)
    (name : String) (schema : Json) {definition : Definition}
    (found : (registry.register name schema).find? name = some definition) :
    Runs (registry.register name schema) (definition :: past)

namespace Runs

variable {registry : Registry} {past : List Definition} {definition : Definition}

/-- Right after its registration a schema is found with its hash. -/
lemma found_eq {name : String} {schema : Json}
    (found : (registry.register name schema).find? name = some definition) :
    definition = ⟨name, schema, hash name schema⟩ := by
  rw [find?_register, if_pos rfl] at found
  exact (Option.some.inj found).symm

/-- A registration after others. -/
lemma next (runs : Runs registry past) (name : String) (schema : Json) :
    Runs (registry.register name schema) (⟨name, schema, hash name schema⟩ :: past) :=
  runs.register name schema (by rw [find?_register, if_pos rfl])

/-- The registry that a runtime starts with comes from three registrations. -/
lemma initial (mutationEvent : String) : ∃ past, Runs (Registry.initial mutationEvent) past :=
  ⟨_, ((empty.next _ _).next _ _).next _ _⟩

/-- A registration keeps the hash of its own name and schema. -/
theorem hash_eq (runs : Runs registry past) (mem : definition ∈ past) :
    definition.hash = Blake3.hashText definition.hashed := by
  induction runs with
  | empty => cases mem
  | register _ name schema found ih =>
    rcases List.mem_cons.1 mem with rfl | mem
    · rw [found_eq found]
      rfl
    · exact ih mem

/-- What a registry holds was registered, under the name by which it is found. -/
theorem registered (runs : Runs registry past) {name : String}
    (found : registry.find? name = some definition) :
    definition ∈ past ∧ definition.name = name := by
  induction runs with
  | empty => cases found
  | register _ other schema latest ih =>
    rw [find?_register] at found
    split at found
    · rename_i same
      cases found
      rw [← same, found_eq latest]
      exact ⟨List.mem_cons_self, rfl⟩
    · obtain ⟨mem, named⟩ := ih found
      exact ⟨List.mem_cons_of_mem _ mem, named⟩

/-- Two registrations have the same hash exactly if they have the same name and the same text. -/
theorem hash_eq_iff (runs : Runs registry past) (separates : Separates (past.map Definition.hashed))
    {first second : Definition} (mem : first ∈ past) (mem' : second ∈ past) :
    first.hash = second.hash ↔
      first.name = second.name ∧ first.schema.text = second.schema.text := by
  rw [runs.hash_eq mem, runs.hash_eq mem', ← Definition.hashed_inj]
  constructor
  · exact separates _ (List.mem_map_of_mem mem) _ (List.mem_map_of_mem mem')
  · exact congrArg _

end Runs

end Registry

open Registry (Runs)

/-- **Hashes separate definitions.**  What is hashed for a name and a schema determines the name and
the text of the schema, whatever the name.  So after any registrations, those that a runtime starts
with and any others, two of them have the same hash if and only if they have the same name and the
same text, provided that Blake3 separates what has been hashed; and what the registry then holds
under a name is one of these registrations. -/
theorem hashes_separate :
    (∀ name other schema schema', hashedText name schema = hashedText other schema' ↔
      name = other ∧ schema.text = schema'.text) ∧
    (∀ mutationEvent, ∃ past, Runs (Registry.initial mutationEvent) past) ∧
    ∀ registry past, Runs registry past → Separates (past.map Definition.hashed) →
      (∀ first ∈ past, ∀ second ∈ past, first.hash = second.hash ↔
        first.name = second.name ∧ first.schema.text = second.schema.text) ∧
      ∀ name definition, registry.find? name = some definition →
        definition ∈ past ∧ definition.name = name := by
  refine ⟨fun _ _ _ _ => hashedText_inj, Runs.initial, fun registry past runs separates => ?_⟩
  constructor
  · intro first mem second mem'
    exact runs.hash_eq_iff separates mem mem'
  · intro name definition found
    exact runs.registered found

namespace Sample

/-- A definition as it is registered. -/
def definition (name : String) (schema : Json) : Definition := ⟨name, schema, hash name schema⟩

/-- A schema whose text has a bar in it. -/
def barred : Definition := definition "GO" (.record [("const", .str "|true")])

/-- The start of what is hashed for that schema, up to its second bar, is a name with a bar. -/
def mixed : Definition := definition "GO|\x7b\"const\":\"" (.bool true)

/-- The first name again, with another schema. -/
def replaced : Definition := definition "GO" (.bool true)

end Sample

/-- Three registrations have three hashes, though the bars of names and schemas are mixed up; and
the registry holds one of the two that have one name. -/
theorem hashes_separate_bars :
    ∃ registry, Runs registry [Sample.replaced, Sample.mixed, Sample.barred] ∧
      Separates ([Sample.replaced, Sample.mixed, Sample.barred].map Definition.hashed) ∧
      Sample.barred.hash ≠ Sample.mixed.hash ∧ Sample.barred.hash ≠ Sample.replaced.hash ∧
      ∀ definition, registry.find? "GO" = some definition →
        definition ∈ [Sample.replaced, Sample.mixed, Sample.barred] := by
  obtain ⟨-, -, separate⟩ := hashes_separate
  have runs : Runs _ [Sample.replaced, Sample.mixed, Sample.barred] :=
    ((Runs.empty.next _ _).next _ _).next _ _
  have separates :
      Separates ([Sample.replaced, Sample.mixed, Sample.barred].map Definition.hashed) := by
    unfold Separates
    decide +kernel
  obtain ⟨same, held⟩ := separate _ _ runs separates
  refine ⟨_, runs, separates, fun one => ?_, fun one => ?_, fun definition found =>
    (held _ definition found).1⟩
  · obtain ⟨name, -⟩ := (same Sample.barred (by simp) Sample.mixed (by simp)).1 one
    exact absurd name (by decide)
  · obtain ⟨-, text⟩ := (same Sample.barred (by simp) Sample.replaced (by simp)).1 one
    exact absurd text (by decide +kernel)

end Troupe.Schema
