import Troupe.Expr.Eval
import Troupe.Proofs.Binary64.Whole

/-!
# Arithmetic on whole numbers

The operators on two whole numbers of 64 signed bits.  Where the exact result is such a
number again, it is what the operation gives; else the operation is done on the two nearest
doubles and gives a double, which is always finite.  Only a zero divisor is an error.

`Computes` says this operator by operator, and `computes` that it holds of all operands.
-/

namespace Troupe

namespace Expr

open Binary64

/-- Whether a whole number has 64 signed bits. -/
def Signed (n : Int) : Prop := -0x8000000000000000 ≤ n ∧ n < 0x8000000000000000

instance (n : Int) : Decidable (Signed n) := inferInstanceAs (Decidable (_ ∧ _))

lemma Signed.fits {n : Int} (signed : Signed n) : Number.Fits n :=
  ⟨signed.1, Int.lt_trans signed.2 (by decide)⟩

/-- Whether a value was computed and is a given whole number. -/
def GivesWhole (outcome : Except TypeFault Json) (n : Int) : Prop :=
  ∃ fits, outcome = .ok (.num (.int n fits))

/-- Whether a value was computed and is a given double. -/
def GivesDouble (outcome : Except TypeFault Json) (x : Float) : Prop :=
  ∃ finite, outcome = .ok (.num (.float x finite))

/-- Whether an operation is exact if its result fits, and is done on doubles otherwise. -/
def Checked (outcome : Except TypeFault Json) (n : Int) (x : Float) : Prop :=
  (Signed n → GivesWhole outcome n) ∧ (¬Signed n → GivesDouble outcome x)

/-- What the arithmetic operators make of two whole numbers. -/
structure Computes (scope : Json) (left right : Expr) (a b : Int) : Prop where
  /-- The sum is exact if it fits. -/
  sum : Checked (eval scope (.binary .add left right)) (a + b) (Float.ofInt a + Float.ofInt b)
  /-- The difference is exact if it fits. -/
  difference :
    Checked (eval scope (.binary .subtract left right)) (a - b) (Float.ofInt a - Float.ofInt b)
  /-- The product is exact if it fits. -/
  product :
    Checked (eval scope (.binary .multiply left right)) (a * b) (Float.ofInt a * Float.ofInt b)
  /-- The quotient is a whole number just when the division has no remainder and it fits. -/
  quotient : ∀ q, GivesWhole (eval scope (.binary .divide left right)) q ↔
    b ≠ 0 ∧ q * b = a ∧ Signed q
  /-- Else the quotient is that of the doubles. -/
  inexact : b ≠ 0 → (¬∃ q, q * b = a ∧ Signed q) →
    GivesDouble (eval scope (.binary .divide left right)) (Float.ofInt a / Float.ofInt b)
  /-- The remainder is that of the division toward zero. -/
  remainder : b ≠ 0 → ¬(a = -0x8000000000000000 ∧ b = -1) →
    ∃ r, GivesWhole (eval scope (.binary .remainder left right)) r ∧
      a = b * a.tdiv b + r ∧ r.natAbs < b.natAbs ∧ (r = 0 ∨ r.sign = a.sign)
  /-- The least number divided by −1 has doubles as its quotient and its remainder. -/
  least : a = -0x8000000000000000 → b = -1 →
    GivesDouble (eval scope (.binary .divide left right)) (Float.ofInt a / Float.ofInt b) ∧
      ∃ x, GivesDouble (eval scope (.binary .remainder left right)) x ∧ (x == 0) = true
  /-- Division by zero is an error of the types. -/
  byZero : b = 0 → ∀ operator, operator = .divide ∨ operator = .remainder →
    eval scope (.binary operator left right) = .error .divisionByZero ∧
      ∀ source, ofText source = .ok (.binary operator left right) →
        evaluate source scope = .error (.type source .divisionByZero)
  /-- The opposite number is exact unless the number is the least. -/
  opposite : if a = -0x8000000000000000 then
      GivesDouble (eval scope (.negate left)) (-Float.ofInt a)
    else GivesWhole (eval scope (.negate left)) (-a)

lemma fitting?_of_signed {n : Int} (signed : Signed n) :
    fitting? n = some (.num (.int n signed.fits)) := by
  have holds : -0x8000000000000000 ≤ n ∧ n < 0x8000000000000000 := signed
  rw [fitting?, if_pos holds, Number.ofInt?, dif_pos signed.fits]
  rfl

lemma fitting?_of_not_signed {n : Int} (long : ¬Signed n) : fitting? n = none :=
  if_neg long

lemma givesDouble_finite {x : Float} (isFinite : x.isFinite = true) :
    GivesDouble (finite x) x := by
  refine ⟨isFinite, ?_⟩
  rw [finite, Number.ofFloat?, dif_pos isFinite]

lemma GivesWhole.not_givesDouble {outcome : Except TypeFault Json} {n : Int} {x : Float}
    (whole : GivesWhole outcome n) : ¬GivesDouble outcome x := by
  rintro ⟨_, double⟩
  obtain ⟨_, rfl⟩ := whole
  simp at double

lemma GivesWhole.unique {outcome : Except TypeFault Json} {m n : Int}
    (left : GivesWhole outcome m) (right : GivesWhole outcome n) : m = n := by
  obtain ⟨_, rfl⟩ := left
  obtain ⟨_, same⟩ := right
  simpa using same

/-- A number that divides has just one quotient, and leaves no remainder. -/
lemma mul_eq_iff {a b q : Int} (ne : b ≠ 0) : q * b = a ↔ a.tmod b = 0 ∧ q = a.tdiv b := by
  constructor
  · rintro rfl
    exact ⟨Int.mul_tmod_left q b, (Int.mul_tdiv_cancel q ne).symm⟩
  · rintro ⟨none, rfl⟩
    exact Int.tdiv_mul_cancel_of_tmod_eq_zero none

lemma signed_tmod {a b : Int} (signed : Signed a) : Signed (a.tmod b) := by
  have magnitude : (a.tmod b).natAbs ≤ a.natAbs := by
    rw [Int.natAbs_tmod]
    exact Nat.mod_le _ _
  have nonneg : 0 ≤ a → 0 ≤ a.tmod b := Int.tmod_nonneg b
  have nonpos : 0 ≤ -a → 0 ≤ (-a).tmod b := Int.tmod_nonneg b
  rw [Int.neg_tmod] at nonpos
  obtain ⟨low, high⟩ := signed
  constructor <;> omega

section Operands

variable {scope : Json} {left right : Expr}

/-- An operator other than the logical ones is applied to the values of its operands. -/
lemma eval_binary {operator : Operator} {x y : Json} (disjunction : operator ≠ .or)
    (conjunction : operator ≠ .and) (evalLeft : eval scope left = .ok x)
    (evalRight : eval scope right = .ok y) :
    eval scope (.binary operator left right) = apply operator x y := by
  rw [eval, evalLeft, evalRight]
  · rfl
  · exact disjunction
  · exact conjunction

variable {a b : Int} {fitsLeft : Number.Fits a} {fitsRight : Number.Fits b}

/-- The doubles take over where signed numbers have no exact result. -/
lemma arithmetic_int (operator : Operator) (signedLeft : Signed a) (signedRight : Signed b) :
    arithmetic operator (.num (.int a fitsLeft)) (.num (.int b fitsRight)) =
      match wholeResult? operator a b with
      | some result => .ok result
      | none => floatResult operator (Float.ofInt a) (Float.ofInt b) := by
  have left : (Json.num (.int a fitsLeft)).int64? = some a := if_pos signedLeft.2
  have right : (Json.num (.int b fitsRight)).int64? = some b := if_pos signedRight.2
  rw [arithmetic, left, right]
  rfl

/-- An operation with an exact result and one on doubles is checked. -/
lemma checked_arithmetic {operator : Operator} {n : Int} {x : Float} (signedLeft : Signed a)
    (signedRight : Signed b) (exact : wholeResult? operator a b = fitting? n)
    (double : floatResult operator (Float.ofInt a) (Float.ofInt b) = finite x)
    (isFinite : x.isFinite = true) :
    Checked (arithmetic operator (.num (.int a fitsLeft)) (.num (.int b fitsRight))) n x := by
  rw [arithmetic_int operator signedLeft signedRight, exact, double]
  constructor
  · intro signed
    rw [fitting?_of_signed signed]
    exact ⟨signed.fits, rfl⟩
  · intro long
    rw [fitting?_of_not_signed long]
    exact givesDouble_finite isFinite

lemma divide_exact {q : Int} (signedLeft : Signed a) (signedRight : Signed b) (ne : b ≠ 0)
    (product : q * b = a) (signed : Signed q) :
    GivesWhole (arithmetic .divide (.num (.int a fitsLeft)) (.num (.int b fitsRight))) q := by
  obtain ⟨none, rfl⟩ := (mul_eq_iff ne).1 product
  rw [arithmetic_int .divide signedLeft signedRight, wholeResult?, if_pos ⟨ne, none⟩,
    fitting?_of_signed signed]
  exact ⟨signed.fits, rfl⟩

lemma divide_inexact (signedLeft : Signed a) (signedRight : Signed b) (ne : b ≠ 0)
    (inexact : ¬∃ q, q * b = a ∧ Signed q) :
    GivesDouble (arithmetic .divide (.num (.int a fitsLeft)) (.num (.int b fitsRight)))
      (Float.ofInt a / Float.ofInt b) := by
  have none : wholeResult? .divide a b = none := by
    rw [wholeResult?]
    split
    · next exact =>
      apply fitting?_of_not_signed
      intro signed
      exact inexact ⟨a.tdiv b, (mul_eq_iff ne).2 ⟨exact.2, rfl⟩, signed⟩
    · rfl
  rw [arithmetic_int .divide signedLeft signedRight, none]
  simp only [floatResult, ofInt_beq_zero fitsRight, decide_eq_true_iff, if_neg ne]
  exact givesDouble_finite (isFinite_div fitsLeft fitsRight ne)

lemma arithmetic_zero {operator : Operator} {fitsZero : Number.Fits 0} (signed : Signed a)
    (division : operator = .divide ∨ operator = .remainder) :
    arithmetic operator (.num (.int a fitsLeft)) (.num (.int 0 fitsZero)) =
      .error .divisionByZero := by
  rw [arithmetic_int operator signed (by decide)]
  rcases division with rfl | rfl <;>
    simp only [wholeResult?, floatResult, ofInt_beq_zero fitsZero] <;> rfl

lemma remainder_exact (signedLeft : Signed a) (signedRight : Signed b) (ne : b ≠ 0)
    (other : ¬(a = -0x8000000000000000 ∧ b = -1)) :
    GivesWhole (arithmetic .remainder (.num (.int a fitsLeft)) (.num (.int b fitsRight)))
      (a.tmod b) := by
  rw [arithmetic_int .remainder signedLeft signedRight, wholeResult?, if_pos ⟨ne, other⟩,
    fitting?_of_signed (signed_tmod signedLeft)]
  exact ⟨(signed_tmod signedLeft).fits, rfl⟩

lemma remainder_least {fitsLeft : Number.Fits (-0x8000000000000000)}
    {fitsRight : Number.Fits (-1)} :
    ∃ x, GivesDouble (arithmetic .remainder (.num (.int (-0x8000000000000000) fitsLeft))
      (.num (.int (-1) fitsRight))) x ∧ (x == 0) = true := by
  have none : wholeResult? .remainder (-0x8000000000000000) (-1) = none := rfl
  have divisor : (Float.ofInt (-1) == 0) = false := ofInt_beq_zero fitsRight
  rw [arithmetic_int .remainder (by decide) (by decide), none]
  simp only [floatResult, divisor, Bool.false_eq_true, if_false]
  exact ⟨_, givesDouble_finite (by decide +kernel), by decide +kernel⟩

lemma checked_negated (signed : Signed a) :
    Checked (negated (.num (.int a fitsLeft))) (-a) (-Float.ofInt a) := by
  have whole : (Json.num (.int a fitsLeft)).int64? = some a := if_pos signed.2
  rw [negated, whole, Option.bind_some]
  constructor
  · intro fitting
    rw [fitting?_of_signed fitting]
    exact ⟨fitting.fits, rfl⟩
  · intro long
    rw [fitting?_of_not_signed long]
    exact givesDouble_finite (isFinite_neg fitsLeft)

end Operands

/-- Arithmetic on signed whole numbers is exact wherever its result fits, and gives finite
doubles elsewhere; it fails for a zero divisor only. -/
theorem computes {scope : Json} {left right : Expr} {a b : Int} {fitsLeft : Number.Fits a}
    {fitsRight : Number.Fits b} (evalLeft : eval scope left = .ok (.num (.int a fitsLeft)))
    (evalRight : eval scope right = .ok (.num (.int b fitsRight))) (signedLeft : Signed a)
    (signedRight : Signed b) : Computes scope left right a b where
  sum := by
    rw [eval_binary (by decide) (by decide) evalLeft evalRight]
    exact checked_arithmetic signedLeft signedRight rfl rfl (isFinite_add fitsLeft fitsRight)
  difference := by
    rw [eval_binary (by decide) (by decide) evalLeft evalRight]
    exact checked_arithmetic signedLeft signedRight rfl rfl (isFinite_sub fitsLeft fitsRight)
  product := by
    rw [eval_binary (by decide) (by decide) evalLeft evalRight]
    exact checked_arithmetic signedLeft signedRight rfl rfl (isFinite_mul fitsLeft fitsRight)
  quotient := by
    intro q
    rw [eval_binary (by decide) (by decide) evalLeft evalRight]
    constructor
    · intro whole
      have ne : b ≠ 0 := by
        rintro rfl
        obtain ⟨_, whole⟩ := whole
        rw [show apply .divide _ _ = _ from arithmetic_zero signedLeft (.inl rfl)] at whole
        simp at whole
      by_cases exact : ∃ q, q * b = a ∧ Signed q
      · obtain ⟨q', product, signed⟩ := exact
        obtain rfl := whole.unique (divide_exact signedLeft signedRight ne product signed)
        exact ⟨ne, product, signed⟩
      · exact absurd (divide_inexact signedLeft signedRight ne exact) whole.not_givesDouble
    · rintro ⟨ne, product, signed⟩
      exact divide_exact signedLeft signedRight ne product signed
  inexact := by
    intro ne inexact
    rw [eval_binary (by decide) (by decide) evalLeft evalRight]
    exact divide_inexact signedLeft signedRight ne inexact
  remainder := by
    intro ne other
    refine ⟨a.tmod b, ?_, (Int.mul_tdiv_add_tmod a b).symm, ?_, ?_⟩
    · rw [eval_binary (by decide) (by decide) evalLeft evalRight]
      exact remainder_exact signedLeft signedRight ne other
    · rw [Int.natAbs_tmod]
      exact Nat.mod_lt _ (by omega)
    · by_cases divides : b ∣ a
      · exact .inl (Int.tmod_eq_zero_of_dvd divides)
      · right
        rw [Int.sign_tmod, if_neg divides]
  least := by
    rintro rfl rfl
    rw [eval_binary (by decide) (by decide) evalLeft evalRight,
      eval_binary (by decide) (by decide) evalLeft evalRight]
    refine ⟨divide_inexact signedLeft signedRight (by decide) ?_, remainder_least⟩
    rintro ⟨q, product, low, high⟩
    omega
  byZero := by
    rintro rfl operator division
    have failed : eval scope (.binary operator left right) = .error .divisionByZero := by
      rw [eval_binary (by rintro rfl; simp at division) (by rintro rfl; simp at division)
        evalLeft evalRight, ← arithmetic_zero signedLeft division]
      rcases division with rfl | rfl <;> rfl
    refine ⟨failed, ?_⟩
    intro source parsed
    rw [evaluate, parsed]
    simp only [failed]
  opposite := by
    obtain ⟨low, high⟩ := signedLeft
    have checked : Checked (eval scope (.negate left)) (-a) (-Float.ofInt a) := by
      rw [eval, evalLeft]
      exact checked_negated ⟨low, high⟩
    split
    · next least =>
      apply checked.2
      rintro ⟨-, fits⟩
      omega
    · next other =>
      apply checked.1
      constructor <;> omega

/-- The least number and −1: the product, the quotient and the opposite number do not fit. -/
theorem computes_least :
    let least : Json := .num (.int (-0x8000000000000000) (by decide))
    let unit : Json := .num (.int (-1) (by decide))
    eval .null (.literal least) = .ok least ∧ eval .null (.literal unit) = .ok unit ∧
      Signed (-0x8000000000000000) ∧ Signed (-1) ∧
      Computes .null (.literal least) (.literal unit) (-0x8000000000000000) (-1) :=
  ⟨rfl, rfl, by decide, by decide, computes rfl rfl (by decide) (by decide)⟩

end Expr

end Troupe
