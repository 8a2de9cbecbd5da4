import Troupe.Proofs.Expr.Arithmetic

/-!
# Comparisons of whole numbers

Numbers are compared as doubles, whole numbers included, although the arithmetic operators
compute with whole numbers exactly.  So the comparison of two whole numbers is that of their
nearest doubles: never the wrong way round, but numbers that become the same double count as
equal, while their difference is not zero.  That happens just to different numbers with one
nearest double, and to none of at most `2 ^ 53` in magnitude or more than 1024 apart.
-/

namespace Troupe

namespace Expr

open Binary64

/-- Whether the six operators of comparison answer by an order. -/
structure Compares (scope : Json) (left right : Expr) (order : Ordering) : Prop where
  /-- Equality. -/
  equal : eval scope (.binary .equal left right) = .ok (.bool order.isEq)
  /-- Inequality. -/
  notEqual : eval scope (.binary .notEqual left right) = .ok (.bool order.isNe)
  /-- Less. -/
  less : eval scope (.binary .less left right) = .ok (.bool order.isLT)
  /-- Less or equal. -/
  lessEqual : eval scope (.binary .lessEqual left right) = .ok (.bool order.isLE)
  /-- Greater. -/
  greater : eval scope (.binary .greater left right) = .ok (.bool order.isGT)
  /-- Greater or equal. -/
  greaterEqual : eval scope (.binary .greaterEqual left right) = .ok (.bool order.isGE)

section Nearest

variable {a b : Int}

/-- Rounding keeps the order of numbers that it keeps apart. -/
lemma compare_nearest (apart : a = b ∨ nearest a ≠ nearest b) :
    compare (nearest a) (nearest b) = compare a b := by
  rcases apart with rfl | apart
  · rw [Int.compare_eq_eq.2 rfl, Int.compare_eq_eq.2 rfl]
  · rcases Int.lt_trichotomy a b with lt | rfl | gt
    · have ordered := nearest_mono (Int.le_of_lt lt)
      rw [Int.compare_eq_lt.2 lt, Int.compare_eq_lt.2 (by omega)]
    · exact absurd rfl apart
    · have ordered := nearest_mono (Int.le_of_lt gt)
      rw [Int.compare_eq_gt.2 gt, Int.compare_eq_gt.2 (by omega)]

/-- Short numbers are not rounded, and rounding does not bring together numbers far apart. -/
lemma apart_of_short_or_far (signedLeft : Signed a) (signedRight : Signed b)
    (condition : a.natAbs ≤ 2 ^ 53 ∧ b.natAbs ≤ 2 ^ 53 ∨ 1024 < (a - b).natAbs) :
    a = b ∨ nearest a ≠ nearest b := by
  obtain ⟨low, high⟩ := signedLeft
  obtain ⟨low', high'⟩ := signedRight
  rcases condition with ⟨short, short'⟩ | far
  · rw [nearest_of_natAbs_le short, nearest_of_natAbs_le short']
    exact Decidable.em (a = b)
  · have error := nearest_error (a := a) (by omega)
    have error' := nearest_error (a := b) (by omega)
    right
    omega

lemma compare_sub_zero (a b : Int) : compare (a - b) 0 = compare a b := by
  rcases Int.lt_trichotomy a b with lt | rfl | gt
  · rw [Int.compare_eq_lt.2 lt, Int.compare_eq_lt.2 (by omega)]
  · rw [Int.compare_eq_eq.2 rfl, Int.compare_eq_eq.2 (by omega)]
  · rw [Int.compare_eq_gt.2 gt, Int.compare_eq_gt.2 (by omega)]

end Nearest

section Operands

variable {scope : Json} {left right : Expr} {a b : Int} {fitsLeft : Number.Fits a}
  {fitsRight : Number.Fits b}

lemma looselyEqual_int :
    (Json.num (.int a fitsLeft)).looselyEqual (.num (.int b fitsRight)) =
      (compare (nearest a) (nearest b)).isEq := by
  show (Float.ofInt a == Float.ofInt b) = _
  rw [Bool.eq_iff_iff, beq_iff_of_stands (stands_ofInt fitsLeft) (stands_ofInt fitsRight),
    Ordering.isEq_iff_eq_eq, Int.compare_eq_eq]

lemma ordering_int :
    ordering (.num (.int a fitsLeft)) (.num (.int b fitsRight)) =
      .ok (compare (nearest a) (nearest b)) := by
  have less := lt_iff_of_stands (stands_ofInt fitsLeft) (stands_ofInt fitsRight)
  have greater := lt_iff_of_stands (stands_ofInt fitsRight) (stands_ofInt fitsLeft)
  have equal := beq_iff_of_stands (stands_ofInt fitsLeft) (stands_ofInt fitsRight)
  show (if Float.ofInt a < Float.ofInt b then Except.ok Ordering.lt
    else if Float.ofInt b < Float.ofInt a then .ok .gt
    else if Float.ofInt a == Float.ofInt b then .ok .eq
    else .error TypeFault.notComparable) = _
  rcases Int.lt_trichotomy (nearest a) (nearest b) with lt | eq | gt
  · rw [if_pos (less.2 lt), Int.compare_eq_lt.2 lt]
  · rw [if_neg (by rw [less]; omega), if_neg (by rw [greater]; omega), if_pos (equal.2 eq),
      Int.compare_eq_eq.2 eq]
  · rw [if_neg (by rw [less]; omega), if_pos (greater.2 gt), Int.compare_eq_gt.2 gt]

/-- Whole numbers compare as their nearest doubles do. -/
lemma compares_doubles (evalLeft : eval scope left = .ok (.num (.int a fitsLeft)))
    (evalRight : eval scope right = .ok (.num (.int b fitsRight))) :
    Compares scope left right (compare (nearest a) (nearest b)) where
  equal := by
    rw [eval_binary (by decide) (by decide) evalLeft evalRight, apply, looselyEqual_int]
  notEqual := by
    rw [eval_binary (by decide) (by decide) evalLeft evalRight, apply, looselyEqual_int,
      Ordering.not_isEq_eq_isNe]
  less := by
    rw [eval_binary (by decide) (by decide) evalLeft evalRight, apply, ordering_int]
    rfl
  lessEqual := by
    rw [eval_binary (by decide) (by decide) evalLeft evalRight, apply, ordering_int]
    rfl
  greater := by
    rw [eval_binary (by decide) (by decide) evalLeft evalRight, apply, ordering_int]
    rfl
  greaterEqual := by
    rw [eval_binary (by decide) (by decide) evalLeft evalRight, apply, ordering_int]
    rfl

lemma Compares.unique {order order' : Ordering} (compares : Compares scope left right order)
    (compares' : Compares scope left right order') : order = order' := by
  have less := compares.less.symm.trans compares'.less
  have greater := compares.greater.symm.trans compares'.greater
  revert less greater
  cases order <;> cases order' <;> simp

/-- The comparison is exact just for numbers that rounding keeps apart. -/
lemma compares_exactly_iff (evalLeft : eval scope left = .ok (.num (.int a fitsLeft)))
    (evalRight : eval scope right = .ok (.num (.int b fitsRight))) :
    Compares scope left right (compare a b) ↔ a = b ∨ nearest a ≠ nearest b := by
  have compares := compares_doubles evalLeft evalRight
  constructor
  · intro exact
    have same := exact.unique compares
    by_cases merged : nearest a = nearest b
    · rw [Int.compare_eq_eq.2 merged, Int.compare_eq_eq] at same
      exact .inl same
    · exact .inr merged
  · intro apart
    rw [compare_nearest apart] at compares
    exact compares

end Operands

/-- The comparison of two signed whole numbers is that of their nearest doubles.  It is the
exact order, and agrees with the sign of the exact difference, unless the numbers differ and
have one nearest double: then they compare as equal. -/
theorem compares_rounded {scope : Json} {left right : Expr} {a b : Int}
    {fitsLeft : Number.Fits a} {fitsRight : Number.Fits b}
    (evalLeft : eval scope left = .ok (.num (.int a fitsLeft)))
    (evalRight : eval scope right = .ok (.num (.int b fitsRight))) (signedLeft : Signed a)
    (signedRight : Signed b) :
    Compares scope left right (compare (nearest a) (nearest b)) ∧
      (Compares scope left right (compare a b) ↔ a = b ∨ nearest a ≠ nearest b) ∧
      (a.natAbs ≤ 2 ^ 53 ∧ b.natAbs ≤ 2 ^ 53 ∨ 1024 < (a - b).natAbs →
        Compares scope left right (compare a b)) ∧
      (Signed (a - b) →
        ∃ d, GivesWhole (eval scope (.binary .subtract left right)) d ∧
          (Compares scope left right (compare d 0) ↔ a = b ∨ nearest a ≠ nearest b)) := by
  have exactly := compares_exactly_iff evalLeft evalRight
  refine ⟨compares_doubles evalLeft evalRight, exactly, ?_, ?_⟩
  · intro condition
    exact exactly.2 (apart_of_short_or_far signedLeft signedRight condition)
  · intro signed
    refine ⟨a - b, ?_, ?_⟩
    · rw [eval_binary (by decide) (by decide) evalLeft evalRight]
      exact (checked_arithmetic signedLeft signedRight rfl rfl
        (isFinite_sub fitsLeft fitsRight)).1 signed
    · rw [compare_sub_zero]
      exact exactly

/-- `2 ^ 53 + 1` and `2 ^ 53` compare as equal, though their difference is one. -/
theorem compares_rounded_neighbours :
    let next : Json := .num (.int 9007199254740993 (by decide))
    let power : Json := .num (.int 9007199254740992 (by decide))
    eval .null (.literal next) = .ok next ∧ eval .null (.literal power) = .ok power ∧
      Signed 9007199254740993 ∧ Signed 9007199254740992 ∧
      Compares .null (.literal next) (.literal power) .eq ∧
      ¬Compares .null (.literal next) (.literal power)
        (compare 9007199254740993 (9007199254740992 : Int)) ∧
      GivesWhole (eval .null (.binary .subtract (.literal next) (.literal power))) 1 := by
  intro next power
  have evalNext : eval .null (.literal next) = .ok next := rfl
  have evalPower : eval .null (.literal power) = .ok power := rfl
  obtain ⟨doubles, exactly, -, -⟩ := compares_rounded evalNext evalPower (by decide) (by decide)
  have merged : compare (nearest 9007199254740993) (nearest 9007199254740992) = .eq := by decide
  rw [merged] at doubles
  exact ⟨evalNext, evalPower, by decide, by decide, doubles, mt exactly.1 (by decide),
    by decide, rfl⟩

end Expr

end Troupe
