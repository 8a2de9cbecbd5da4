/-!
# Key-sorted tables

A finite map is kept as the list of its entries in strictly increasing key order.  The
operations work on any list of pairs and read the first entry of a key, so their look-up
laws (`find?_insert`, `find?_erase`) need no order at all; the order is what makes two
tables with the same entries equal (`Table.ext_find?`) and what fixes the order in which
entries are visited.
-/

namespace Troupe

/-- A strict order in which any two keys compare. -/
class KeyOrder (κ : Type) [LT κ] : Prop where
  /-- No key is below itself. -/
  irrefl : ∀ a : κ, ¬ a < a
  /-- The order is transitive. -/
  trans : ∀ {a b c : κ}, a < b → b < c → a < c
  /-- Of two different keys one is below the other. -/
  trichotomy : ∀ a b : κ, a < b ∨ a = b ∨ b < a

instance : KeyOrder String where
  irrefl := String.lt_irrefl
  trans := String.lt_trans
  trichotomy a b := by
    by_cases hab : a < b
    · exact .inl hab
    · by_cases hba : b < a
      · exact .inr (.inr hba)
      · exact .inr (.inl (String.le_antisymm (String.not_lt.1 hba) (String.not_lt.1 hab)))

namespace Assoc

variable {κ α β : Type}

/-- The value of the first entry with the given key. -/
def find? [DecidableEq κ] (key : κ) : List (κ × α) → Option α
  | [] => none
  | (k, v) :: rest => if k = key then some v else find? key rest

/-- Whether some entry has the given key. -/
def contains [DecidableEq κ] (key : κ) (entries : List (κ × α)) : Bool :=
  (find? key entries).isSome

/-- Put a value under a key: in place of the entry that has the key, else before the
first entry with a larger key. -/
def insert [LT κ] [DecidableLT κ] [DecidableEq κ] (key : κ) (value : α) :
    List (κ × α) → List (κ × α)
  | [] => [(key, value)]
  | (k, v) :: rest =>
    if k = key then (key, value) :: rest
    else if key < k then (key, value) :: (k, v) :: rest
    else (k, v) :: insert key value rest

/-- Drop every entry with the given key. -/
def erase [DecidableEq κ] (key : κ) (entries : List (κ × α)) : List (κ × α) :=
  entries.filter fun entry => decide (entry.1 ≠ key)

/-- Keys in strictly increasing order. -/
def Sorted [LT κ] (entries : List (κ × α)) : Prop :=
  entries.Pairwise fun a b => a.1 < b.1

/-- Collect entries given in any order; of two entries with one key the later wins. -/
def ofList [LT κ] [DecidableLT κ] [DecidableEq κ] (entries : List (κ × α)) : List (κ × α) :=
  entries.foldl (fun table entry => insert entry.1 entry.2 table) []

section Find

variable [DecidableEq κ]

@[simp] theorem find?_nil (key : κ) : find? key ([] : List (κ × α)) = none := rfl

theorem find?_cons (key k : κ) (v : α) (rest : List (κ × α)) :
    find? key ((k, v) :: rest) = if k = key then some v else find? key rest := rfl

theorem find?_insert [LT κ] [DecidableLT κ] (key other : κ) (value : α)
    (entries : List (κ × α)) :
    find? other (insert key value entries) =
      if key = other then some value else find? other entries := by
  induction entries with
  | nil => simp [insert, find?]
  | cons entry rest ih =>
    obtain ⟨k, v⟩ := entry
    simp only [insert]
    split
    · subst_vars
      simp only [find?]
      split <;> rfl
    · split
      · simp only [find?]
      · simp only [find?, ih]
        split <;> split <;> simp_all

theorem find?_erase (key other : κ) (entries : List (κ × α)) :
    find? other (erase key entries) = if key = other then none else find? other entries := by
  induction entries with
  | nil => simp [erase]
  | cons entry rest ih =>
    obtain ⟨k, v⟩ := entry
    simp only [erase, List.filter_cons] at ih ⊢
    by_cases hk : k = key
    · subst hk
      simp only [ne_eq, not_true_eq_false, decide_false, Bool.false_eq_true, if_false, ih, find?]
      split <;> simp_all
    · simp only [ne_eq, hk, not_false_eq_true, decide_true, if_true, find?, ih]
      split <;> split <;> simp_all

theorem find?_eq_some_of_mem [LT κ] [KeyOrder κ] {entries : List (κ × α)} (sorted : Sorted entries)
    {key : κ} {value : α} (mem : (key, value) ∈ entries) : find? key entries = some value := by
  induction entries with
  | nil => cases mem
  | cons entry rest ih =>
    obtain ⟨k, v⟩ := entry
    obtain ⟨below, sorted⟩ := List.pairwise_cons.1 sorted
    rcases List.mem_cons.1 mem with same | mem
    · cases same
      simp [find?]
    · have lt : k < key := below _ mem
      have ne : k ≠ key := fun h => KeyOrder.irrefl k (h ▸ lt)
      simp [find?, ne, ih sorted mem]

theorem mem_of_find?_eq_some {entries : List (κ × α)} {key : κ} {value : α}
    (found : find? key entries = some value) : (key, value) ∈ entries := by
  induction entries with
  | nil => cases found
  | cons entry rest ih =>
    obtain ⟨k, v⟩ := entry
    rw [find?_cons] at found
    split at found
    · cases found
      subst_vars
      exact List.mem_cons_self
    · exact List.mem_cons_of_mem _ (ih found)

end Find

section Sorted

variable [LT κ]

theorem sorted_nil : Sorted ([] : List (κ × α)) := List.Pairwise.nil

theorem mem_insert [DecidableLT κ] [DecidableEq κ] {key : κ} {value : α}
    {entries : List (κ × α)} {entry : κ × α} (mem : entry ∈ insert key value entries) :
    entry = (key, value) ∨ entry ∈ entries := by
  induction entries with
  | nil => simpa [insert] using mem
  | cons head rest ih =>
    obtain ⟨k, v⟩ := head
    simp only [insert] at mem
    split at mem
    · rcases List.mem_cons.1 mem with h | h
      · exact .inl h
      · exact .inr (List.mem_cons_of_mem _ h)
    · split at mem
      · rcases List.mem_cons.1 mem with h | h
        · exact .inl h
        · exact .inr h
      · rcases List.mem_cons.1 mem with h | h
        · exact .inr (h ▸ List.mem_cons_self)
        · rcases ih h with h | h
          · exact .inl h
          · exact .inr (List.mem_cons_of_mem _ h)

theorem sorted_insert [DecidableLT κ] [DecidableEq κ] [KeyOrder κ] (key : κ) (value : α)
    {entries : List (κ × α)} (sorted : Sorted entries) : Sorted (insert key value entries) := by
  induction entries with
  | nil => simp [insert, Sorted]
  | cons head rest ih =>
    obtain ⟨k, v⟩ := head
    obtain ⟨below, sorted⟩ := List.pairwise_cons.1 sorted
    simp only [insert]
    split
    · subst_vars
      exact List.pairwise_cons.2 ⟨below, sorted⟩
    · rename_i ne
      split
      · rename_i lt
        refine List.pairwise_cons.2 ⟨?_, List.pairwise_cons.2 ⟨below, sorted⟩⟩
        intro entry mem
        rcases List.mem_cons.1 mem with rfl | mem
        · exact lt
        · exact KeyOrder.trans lt (below entry mem)
      · rename_i nlt
        refine List.pairwise_cons.2 ⟨?_, ih sorted⟩
        intro entry mem
        rcases mem_insert mem with rfl | mem
        · rcases KeyOrder.trichotomy k key with h | h | h
          · exact h
          · exact absurd h ne
          · exact absurd h nlt
        · exact below entry mem

theorem sorted_erase [DecidableEq κ] (key : κ) {entries : List (κ × α)}
    (sorted : Sorted entries) : Sorted (erase key entries) :=
  List.Pairwise.filter _ sorted

theorem sorted_ofList [DecidableLT κ] [DecidableEq κ] [KeyOrder κ] (entries : List (κ × α)) :
    Sorted (ofList entries) := by
  suffices ∀ (table : List (κ × α)), Sorted table →
      Sorted (entries.foldl (fun table entry => insert entry.1 entry.2 table) table) from
    this [] sorted_nil
  induction entries with
  | nil => exact fun _ h => h
  | cons head rest ih => exact fun table h => ih _ (sorted_insert _ _ h)

theorem eq_of_find?_eq [DecidableEq κ] [KeyOrder κ] {left right : List (κ × α)}
    (sortedLeft : Sorted left) (sortedRight : Sorted right)
    (same : ∀ key, find? key left = find? key right) : left = right := by
  induction left generalizing right with
  | nil =>
    cases right with
    | nil => rfl
    | cons entry rest => simpa [find?] using same entry.1
  | cons head rest ih =>
    obtain ⟨k, v⟩ := head
    cases right with
    | nil => simpa [find?] using same k
    | cons head' rest' =>
      obtain ⟨k', v'⟩ := head'
      obtain ⟨below, sortedRest⟩ := List.pairwise_cons.1 sortedLeft
      obtain ⟨below', sortedRest'⟩ := List.pairwise_cons.1 sortedRight
      have memRight : (k, v) ∈ (k', v') :: rest' :=
        mem_of_find?_eq_some ((same k).symm.trans (by simp [find?]))
      have memLeft : (k', v') ∈ (k, v) :: rest :=
        mem_of_find?_eq_some ((same k').trans (by simp [find?]))
      have headEq : (k, v) = (k', v') := by
        rcases List.mem_cons.1 memRight with h | h
        · exact h
        · rcases List.mem_cons.1 memLeft with h' | h'
          · exact h'.symm
          · exact absurd (KeyOrder.trans (below _ h') (below' _ h)) (KeyOrder.irrefl k)
      cases headEq
      congr 1
      refine ih sortedRest sortedRest' fun key => ?_
      by_cases hk : k = key
      · subst hk
        have none_of {tail : List (κ × α)} (below : ∀ e ∈ tail, k < e.1) :
            find? k tail = none := by
          cases found : find? k tail with
          | none => rfl
          | some w => exact absurd (below _ (mem_of_find?_eq_some found)) (KeyOrder.irrefl k)
        rw [none_of below, none_of below']
      · simpa [find?, hk] using same key

end Sorted

end Assoc

/-- A finite map from `κ` to `α`. -/
structure Table (κ α : Type) [LT κ] where
  /-- The entries, by increasing key. -/
  entries : List (κ × α)
  /-- Keys increase strictly, so none occurs twice. -/
  sorted : Assoc.Sorted entries

namespace Table

variable {κ α β : Type} [LT κ]

/-- The table with no entries. -/
def empty : Table κ α := ⟨[], Assoc.sorted_nil⟩

instance : EmptyCollection (Table κ α) := ⟨empty⟩

instance : Inhabited (Table κ α) := ⟨empty⟩

/-- The keys, in increasing order. -/
def keys (table : Table κ α) : List κ := table.entries.map Prod.fst

/-- The number of entries. -/
def size (table : Table κ α) : Nat := table.entries.length

/-- The value under a key. -/
def find? [DecidableEq κ] (table : Table κ α) (key : κ) : Option α :=
  Assoc.find? key table.entries

/-- Whether a key has a value. -/
def contains [DecidableEq κ] (table : Table κ α) (key : κ) : Bool := (table.find? key).isSome

/-- Drop the entry of a key. -/
def erase [DecidableEq κ] (table : Table κ α) (key : κ) : Table κ α :=
  ⟨Assoc.erase key table.entries, Assoc.sorted_erase key table.sorted⟩

/-- Keep the entries that pass a test. -/
def filter (test : κ → α → Bool) (table : Table κ α) : Table κ α :=
  ⟨table.entries.filter fun entry => test entry.1 entry.2, List.Pairwise.filter _ table.sorted⟩

section Insert

variable [DecidableEq κ] [DecidableLT κ] [KeyOrder κ]

/-- Put a value under a key, in place of the one it had. -/
def insert (table : Table κ α) (key : κ) (value : α) : Table κ α :=
  ⟨Assoc.insert key value table.entries, Assoc.sorted_insert key value table.sorted⟩

/-- Collect entries given in any order; of two entries with one key the later wins. -/
def ofList (entries : List (κ × α)) : Table κ α :=
  ⟨Assoc.ofList entries, Assoc.sorted_ofList entries⟩

theorem find?_insert (table : Table κ α) (key other : κ) (value : α) :
    (table.insert key value).find? other = if key = other then some value else table.find? other :=
  Assoc.find?_insert key other value table.entries

end Insert

@[simp] theorem find?_empty [DecidableEq κ] (key : κ) : (∅ : Table κ α).find? key = none := rfl

theorem find?_erase [DecidableEq κ] (table : Table κ α) (key other : κ) :
    (table.erase key).find? other = if key = other then none else table.find? other :=
  Assoc.find?_erase key other table.entries

theorem ext_find? [DecidableEq κ] [KeyOrder κ] {left right : Table κ α}
    (same : ∀ key, left.find? key = right.find? key) : left = right := by
  obtain ⟨left, sortedLeft⟩ := left
  obtain ⟨right, sortedRight⟩ := right
  have : left = right := Assoc.eq_of_find?_eq sortedLeft sortedRight same
  subst this
  rfl

end Table

end Troupe
