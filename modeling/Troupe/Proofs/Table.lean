import Mathlib.Tactic.ByContra
import Mathlib.Tactic.Lemma
import Troupe.Table

/-!
# Looking up in tables

The entries of a table are exactly what can be looked up in it (`Table.mem_entries`), so a
table that is filtered gives what passes the filter (`Table.find?_filter`).
-/

namespace Troupe

namespace Assoc

variable {κ α β : Type}

lemma find?_append [DecidableEq κ] (key : κ) (left right : List (κ × α)) :
    find? key (left ++ right) = (find? key left).or (find? key right) := by
  induction left with
  | nil => rfl
  | cons entry rest ih =>
    rw [List.cons_append, find?_cons, find?_cons, ih]
    split <;> rfl

lemma exists_find?_of_mem [DecidableEq κ] {key : κ} {value : α} {entries : List (κ × α)}
    (mem : (key, value) ∈ entries) : ∃ other, find? key entries = some other := by
  induction entries with
  | nil => cases mem
  | cons entry rest ih =>
    rw [find?_cons]
    split
    · exact ⟨_, rfl⟩
    · rcases List.mem_cons.1 mem with same | mem
      · cases same
        contradiction
      · exact ih mem

lemma contains_iff_mem [DecidableEq κ] {key : κ} {entries : List (κ × α)} :
    contains key entries = true ↔ ∃ value, (key, value) ∈ entries := by
  rw [contains, Option.isSome_iff_exists]
  constructor
  · rintro ⟨value, found⟩
    exact ⟨value, mem_of_find?_eq_some found⟩
  · rintro ⟨value, mem⟩
    exact exists_find?_of_mem mem

/-- To put what is there already changes nothing. -/
lemma insert_eq_self [LT κ] [DecidableLT κ] [DecidableEq κ] [KeyOrder κ] {entries : List (κ × α)}
    {key : κ} {value : α} (sorted : Sorted entries) (found : find? key entries = some value) :
    insert key value entries = entries := by
  refine eq_of_find?_eq (sorted_insert key value sorted) sorted fun other => ?_
  rw [find?_insert]
  split
  · rename_i same
    rw [← same, found]
  · rfl

/-- Of several entries with one key the last counts. -/
lemma find?_ofList [LT κ] [DecidableLT κ] [DecidableEq κ] (key : κ) (entries : List (κ × α)) :
    find? key (ofList entries) = find? key entries.reverse := by
  have from_table : ∀ table, find? key (entries.foldl (fun table entry =>
      insert entry.1 entry.2 table) table) = (find? key entries.reverse).or (find? key table) := by
    induction entries with
    | nil => exact fun _ => rfl
    | cons entry rest ih =>
      intro table
      rw [List.foldl_cons, ih, List.reverse_cons, find?_append, find?_insert, Option.or_assoc]
      congr 1
      rw [find?_cons]
      split <;> rfl
  rw [ofList, from_table, find?_nil, Option.or_none]

/-- Looking up under other names. -/
lemma find?_map_of_injective {ι : Type} [DecidableEq ι] [DecidableEq κ] {name : κ → ι}
    (injective : Function.Injective name) (key : κ) (entries : List (κ × α)) :
    find? (name key) (entries.map fun entry => (name entry.1, entry.2)) = find? key entries := by
  induction entries with
  | nil => rfl
  | cons entry rest ih =>
    rw [List.map_cons, find?_cons, find?_cons, ih]
    by_cases same : entry.1 = key
    · rw [if_pos same, if_pos (congrArg name same)]
    · rw [if_neg same, if_neg fun eq => same (injective eq)]

/-- Looking up in changed values. -/
lemma find?_map_value [DecidableEq κ] (change : α → β) (key : κ) (entries : List (κ × α)) :
    find? key (entries.map fun entry => (entry.1, change entry.2)) =
      (find? key entries).map change := by
  induction entries with
  | nil => rfl
  | cons entry rest ih =>
    rw [List.map_cons, find?_cons, find?_cons, ih]
    split <;> rfl

lemma nodup_of_sorted [LT κ] [KeyOrder κ] {entries : List (κ × α)} (sorted : Sorted entries) :
    (entries.map Prod.fst).Nodup := by
  refine List.pairwise_map.2 (sorted.imp ?_)
  intro a b lt same
  exact KeyOrder.irrefl b.1 (same ▸ lt)

lemma find?_of_mem_nodup [DecidableEq κ] {key : κ} {value : α} {entries : List (κ × α)}
    (nodup : (entries.map Prod.fst).Nodup) (mem : (key, value) ∈ entries) :
    find? key entries = some value := by
  induction entries with
  | nil => cases mem
  | cons entry rest ih =>
    rw [List.map_cons, List.nodup_cons] at nodup
    rcases List.mem_cons.1 mem with same | mem
    · cases same
      exact if_pos rfl
    · have other : entry.1 ≠ key := by
        rintro rfl
        exact nodup.1 (List.mem_map.2 ⟨_, mem, rfl⟩)
      rw [find?_cons, if_neg other, ih nodup.2 mem]

/-- Where no key occurs twice it does not matter from which end one is looked up. -/
lemma find?_reverse [DecidableEq κ] (key : κ) {entries : List (κ × α)}
    (nodup : (entries.map Prod.fst).Nodup) : find? key entries.reverse = find? key entries := by
  cases found : find? key entries.reverse with
  | some value =>
    have mem := List.mem_reverse.1 (mem_of_find?_eq_some found)
    exact (find?_of_mem_nodup nodup mem).symm
  | none =>
    cases there : find? key entries with
    | none => rfl
    | some value =>
      obtain ⟨other, found'⟩ :=
        exists_find?_of_mem (List.mem_reverse.2 (mem_of_find?_eq_some there))
      rw [found] at found'
      cases found'

/-- A key that is below all others is not among them. -/
lemma find?_eq_none_of_lt [LT κ] [KeyOrder κ] [DecidableEq κ] {key : κ} {entries : List (κ × α)}
    (below : ∀ entry ∈ entries, key < entry.1) : find? key entries = none := by
  cases found : find? key entries with
  | none => rfl
  | some value => exact absurd (below _ (mem_of_find?_eq_some found)) (KeyOrder.irrefl key)

end Assoc

namespace Table

variable {κ α : Type} [LT κ] [DecidableEq κ]

lemma contains_iff {table : Table κ α} {key : κ} :
    table.contains key ↔ ∃ value, table.find? key = some value :=
  Option.isSome_iff_exists

lemma find?_of_not_contains {table : Table κ α} {key : κ} (missing : table.contains key = false) :
    table.find? key = none := by
  simpa [contains] using missing

lemma contains_insert_of_contains [DecidableLT κ] [KeyOrder κ] {table : Table κ α} {key other : κ}
    {value : α} (there : table.contains other) : (table.insert key value).contains other := by
  unfold contains at there ⊢
  rw [find?_insert]
  split
  · rfl
  · exact there

/-- The entries of a table are what can be looked up in it. -/
lemma mem_entries [KeyOrder κ] {table : Table κ α} {key : κ} {value : α} :
    (key, value) ∈ table.entries ↔ table.find? key = some value :=
  ⟨Assoc.find?_eq_some_of_mem table.sorted, Assoc.mem_of_find?_eq_some⟩

lemma find?_ofList [DecidableLT κ] [KeyOrder κ] (entries : List (κ × α)) (key : κ) :
    (ofList entries).find? key = Assoc.find? key entries.reverse :=
  Assoc.find?_ofList key entries

/-- A table is collected from its own entries. -/
lemma ofList_entries [DecidableLT κ] [KeyOrder κ] (table : Table κ α) :
    ofList table.entries = table := by
  refine ext_find? fun key => ?_
  rw [find?_ofList, Assoc.find?_reverse key (Assoc.nodup_of_sorted table.sorted)]
  rfl

lemma find?_filter [KeyOrder κ] (table : Table κ α) (test : κ → α → Bool) (key : κ) :
    (table.filter test).find? key = (table.find? key).filter (test key) := by
  ext value
  rw [← mem_entries, Option.filter_eq_some_iff, ← mem_entries]
  simp [filter]

/-- A table splits into what passes a test and what does not. -/
lemma find?_filter_not [KeyOrder κ] (table : Table κ α) (test : κ → α → Bool) (key : κ)
    (value : α) : (table.filter fun key value => !test key value).find? key = some value ↔
      table.find? key = some value ∧ key ∉ (table.filter test).entries.map Prod.fst := by
  rw [find?_filter, Option.filter_eq_some_iff]
  refine and_congr_right fun found => ⟨fun fails mem => ?_, fun other => ?_⟩
  · obtain ⟨entry, passed, rfl⟩ := List.mem_map.1 mem
    obtain ⟨there, passes⟩ := List.mem_filter.1 passed
    rw [mem_entries.1 there] at found
    cases found
    simp [passes] at fails
  · by_contra passes
    exact other (List.mem_map.2 ⟨(key, value), List.mem_filter.2
      ⟨mem_entries.2 found, by simpa using passes⟩, rfl⟩)

omit [DecidableEq κ]

lemma mem_filter_entries {table : Table κ α} {test : κ → α → Bool} {entry : κ × α} :
    entry ∈ (table.filter test).entries ↔ entry ∈ table.entries ∧ test entry.1 entry.2 :=
  List.mem_filter

/-- No key occurs twice. -/
lemma nodup_keys [KeyOrder κ] (table : Table κ α) : (table.entries.map Prod.fst).Nodup :=
  Assoc.nodup_of_sorted table.sorted

end Table

end Troupe
