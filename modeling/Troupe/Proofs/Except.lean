import Mathlib.Data.List.Forall2
import Mathlib.Tactic.Lemma

/-!
# Computations that may fail

Such a computation is taken apart at its binds: it succeeds if each of its parts does.
-/

namespace Troupe

section Except

variable {ε α β : Type}

@[simp] lemma ok_bind_eq (value : α) (f : α → Except ε β) : (Except.ok value >>= f) = f value := rfl

@[simp] lemma error_bind_eq (error : ε) (f : α → Except ε β) :
    ((Except.error error : Except ε α) >>= f) = .error error := rfl

lemma bind_eq_ok {x : Except ε α} {f : α → Except ε β} {result : β} :
    x >>= f = .ok result ↔ ∃ value, x = .ok value ∧ f value = .ok result := by
  cases x <;> simp

/-- A check that is passed gives nothing else to go on with. -/
lemma check_eq_ok {x : Except ε Unit} {f : Unit → Except ε β} {result : β} :
    x >>= f = .ok result ↔ x = .ok () ∧ f () = .ok result := by
  cases x <;> simp

lemma unless_eq_ok {holds : Bool} {error : ε} {rest : Unit → Except ε β} {result : β} :
    (if !holds then (throw error >>= rest) else rest ()) = .ok result ↔
      holds = true ∧ rest () = .ok result := by
  cases holds <;> simp [throw, throwThe, MonadExceptOf.throw]

lemma pure_eq_ok {value result : α} : (pure value : Except ε α) = .ok result ↔ value = result :=
  ⟨Except.ok.inj, congrArg Except.ok⟩

lemma mapError_eq_ok {ε' : Type} {x : Except ε α} {f : ε → ε'} {result : α} :
    x.mapError f = .ok result ↔ x = .ok result := by
  cases x <;> simp [Except.mapError]

/-- A list is read if each of its items is. -/
lemma mapM_eq_ok {f : α → Except ε β} {items : List α} {results : List β} :
    items.mapM f = .ok results ↔ List.Forall₂ (fun item result => f item = .ok result) items results := by
  induction items generalizing results with
  | nil =>
    rw [List.mapM_nil, pure_eq_ok, List.forall₂_nil_left_iff]
    exact eq_comm
  | cons item rest ih =>
    rw [List.mapM_cons, bind_eq_ok, List.forall₂_cons_left_iff]
    simp only [bind_eq_ok, pure_eq_ok, ih]
    constructor
    · rintro ⟨first, read, others, all, rfl⟩
      exact ⟨first, others, read, all, rfl⟩
    · rintro ⟨first, others, read, all, rfl⟩
      exact ⟨first, read, others, all, rfl⟩

/-- What is read from a list is read from its items. -/
lemma exists_of_mem_mapM {f : α → Except ε β} {items : List α} {results : List β} {result : β}
    (read : items.mapM f = .ok results) (mem : result ∈ results) :
    ∃ item ∈ items, f item = .ok result := by
  induction mapM_eq_ok.1 read with
  | nil => cases mem
  | cons first rest ih =>
    rcases List.mem_cons.1 mem with rfl | mem
    · exact ⟨_, List.mem_cons_self, first⟩
    · obtain ⟨item, there, read⟩ := ih (mapM_eq_ok.2 rest) mem
      exact ⟨item, List.mem_cons_of_mem _ there, read⟩

/-- A list passes a check if each of its items does. -/
lemma forM_eq_ok {f : α → Except ε Unit} {items : List α} :
    items.forM f = .ok () ↔ ∀ item ∈ items, f item = .ok () := by
  induction items with
  | nil => exact ⟨fun _ _ mem => (List.not_mem_nil mem).elim, fun _ => rfl⟩
  | cons item rest ih =>
    rw [List.forall_mem_cons, ← ih]
    exact check_eq_ok

end Except

end Troupe
