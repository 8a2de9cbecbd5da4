import Mathlib

/-!
# Rounding to doubles

The arithmetic of doubles is done on unpacked numbers, `± m · 2 ^ e`: an operation computes
its result exactly, or with enough bits, and `roundWithAccuracy` shifts it right, bit by bit,
until 53 bits are left.  This file says what comes out.  An exact significand with at least 53
bits is divided by a power of two and rounded to the nearest whole number, ties to the even
one (`roundedQuotient`); `roundWithAccuracy_exact` is that statement.  Whatever is rounded,
the result packs into a finite double as long as it stays below the largest exponent
(`InRange`), and a number with a full significand survives packing.
-/

namespace Troupe

namespace Binary64

open Float.Model Float.Model.UnpackedFloat

/-- The nearest whole number to `n / 2 ^ k`, the even one of two. -/
def roundedQuotient (n k : Nat) : Nat :=
  if 2 * (n % 2 ^ k) < 2 ^ k then n / 2 ^ k
  else if 2 ^ k < 2 * (n % 2 ^ k) then n / 2 ^ k + 1
  else n / 2 ^ k + n / 2 ^ k % 2

lemma le_roundedQuotient (n k : Nat) : n / 2 ^ k ≤ roundedQuotient n k := by
  rw [roundedQuotient]
  split_ifs <;> omega

lemma roundedQuotient_le (n k : Nat) : roundedQuotient n k ≤ n / 2 ^ k + 1 := by
  rw [roundedQuotient]
  split_ifs <;> omega

lemma roundedQuotient_zero (n : Nat) : roundedQuotient n 0 = n := by
  simp [roundedQuotient, Nat.mod_one]

lemma roundedQuotient_mono {m n : Nat} (k : Nat) (le : m ≤ n) :
    roundedQuotient m k ≤ roundedQuotient n k := by
  rcases Nat.lt_or_eq_of_le (Nat.div_le_div_right le : m / 2 ^ k ≤ n / 2 ^ k) with lt | eq
  · calc
      roundedQuotient m k ≤ m / 2 ^ k + 1 := roundedQuotient_le m k
      _ ≤ n / 2 ^ k := lt
      _ ≤ roundedQuotient n k := le_roundedQuotient n k
  · have rests : m % 2 ^ k ≤ n % 2 ^ k := by
      have partsLeft := Nat.div_add_mod m (2 ^ k)
      have partsRight := Nat.div_add_mod n (2 ^ k)
      rw [eq] at partsLeft
      omega
    rw [roundedQuotient, roundedQuotient, eq]
    split_ifs <;> omega

/-- Extra zero bits shifted out again change nothing. -/
lemma roundedQuotient_mul_two_pow (n j k : Nat) :
    roundedQuotient (n * 2 ^ j) (j + k) = roundedQuotient n k := by
  have scale : 0 < 2 ^ j := Nat.two_pow_pos j
  have quotient : n * 2 ^ j / 2 ^ (j + k) = n / 2 ^ k := by
    rw [Nat.pow_add, Nat.mul_comm n, Nat.mul_div_mul_left _ _ scale]
  have rest : 2 * (n * 2 ^ j % 2 ^ (j + k)) = 2 ^ j * (2 * (n % 2 ^ k)) := by
    rw [Nat.pow_add, Nat.mul_comm n, Nat.mul_mod_mul_left, Nat.mul_left_comm]
  rw [roundedQuotient, roundedQuotient, quotient, rest]
  simp only [Nat.pow_add, Nat.mul_lt_mul_left scale]

/-- Rounding moves a number by half a unit at most. -/
lemma roundedQuotient_error (n k : Nat) :
    2 * n ≤ 2 * (roundedQuotient n k * 2 ^ k) + 2 ^ k ∧
      2 * (roundedQuotient n k * 2 ^ k) ≤ 2 * n + 2 ^ k := by
  have parts := Nat.div_add_mod n (2 ^ k)
  rw [Nat.mul_comm] at parts
  rw [roundedQuotient]
  split_ifs with below above
  · omega
  · rw [Nat.add_mul]
    omega
  · rcases Nat.mod_two_eq_zero_or_one (n / 2 ^ k) with even | odd
    · rw [even, Nat.add_zero]
      omega
    · rw [odd, Nat.add_mul]
      omega

section Shifting

lemma shiftRight_zero (em : ExtendedMantissa) : em >>> 0 = em := rfl

lemma shiftRight_succ (em : ExtendedMantissa) (k : Nat) :
    em >>> (k + 1) = (em >>> k).shiftRightOne := rfl

lemma mantissa_shiftRight (em : ExtendedMantissa) (k : Nat) :
    (em >>> k).mantissa = em.mantissa / 2 ^ k := by
  induction k with
  | zero => simp [shiftRight_zero]
  | succ k ih =>
    rw [shiftRight_succ, Nat.pow_succ, ← Nat.div_div_eq_div_mul, ← ih]
    rfl

/-- After `k` shifts the round bit says whether at least half a unit was lost, and the sticky
bit whether anything else was. -/
lemma shiftRight_exact (n k : Nat) :
    ExtendedMantissa.mk n false false >>> k =
      ⟨n / 2 ^ k, decide (2 ^ k ≤ 2 * (n % 2 ^ k)),
        decide (n % 2 ^ k ≠ 0 ∧ 2 * (n % 2 ^ k) ≠ 2 ^ k)⟩ := by
  induction k with
  | zero => simp [shiftRight_zero, Nat.mod_one]
  | succ k ih =>
    have short : n % 2 ^ k < 2 ^ k := Nat.mod_lt _ (Nat.two_pow_pos k)
    have rest : n % 2 ^ (k + 1) = n % 2 ^ k + 2 ^ k * (n / 2 ^ k % 2) := by
      rw [Nat.pow_succ, Nat.mod_mul]
    have bit : n / 2 ^ k % 2 = 0 ∨ n / 2 ^ k % 2 = 1 := Nat.mod_two_eq_zero_or_one _
    rw [shiftRight_succ, ih, rest, ExtendedMantissa.shiftRightOne, ExtendedMantissa.mk.injEq]
    refine ⟨?_, ?_, ?_⟩
    · rw [Nat.pow_succ, Nat.div_div_eq_div_mul]
    · rcases bit with even | odd
      · simp [even, Nat.pow_succ]; omega
      · simp [odd, Nat.pow_succ]; omega
    · rw [Bool.eq_iff_iff]
      rcases bit with even | odd
      · simp [even, Nat.pow_succ]; omega
      · simp [odd, Nat.pow_succ]; omega

lemma roundedMantissa_shiftRight (n k : Nat) :
    (ExtendedMantissa.mk n false false >>> k).roundedMantissa = roundedQuotient n k := by
  have unit : 0 < 2 ^ k := Nat.two_pow_pos k
  rw [shiftRight_exact, roundedQuotient, ExtendedMantissa.roundedMantissa]
  rcases Nat.lt_trichotomy (2 * (n % 2 ^ k)) (2 ^ k) with below | tie | above
  · rw [if_pos below, decide_eq_false (by omega)]
    cases decide (n % 2 ^ k ≠ 0 ∧ 2 * (n % 2 ^ k) ≠ 2 ^ k) <;> rfl
  · rw [if_neg (by omega), if_neg (by omega), decide_eq_true (by omega),
      decide_eq_false (by omega)]
    rfl
  · rw [if_neg (by omega), if_pos above, decide_eq_true (by omega),
      decide_eq_true (by omega)]
    rfl

lemma roundedMantissa_le (em : ExtendedMantissa) : em.roundedMantissa ≤ em.mantissa + 1 := by
  rcases em with ⟨m, _ | _, _ | _⟩
  all_goals
    simp [ExtendedMantissa.roundedMantissa, ExtendedMantissa.accuracy,
      Accuracy.roundToNearestEven]
  omega

lemma mantissa_ofMantissaAndAccuracy (m : Nat) (accuracy : Accuracy) :
    (ExtendedMantissa.ofMantissaAndAccuracy m accuracy).mantissa = m := by
  rcases accuracy with _ | _ | _ | _ <;> rfl

lemma log2_lt_of_lt {m k : Nat} (pos : 0 < k) (lt : m < 2 ^ k) : m.log2 < k := by
  by_cases zero : m = 0
  · rw [zero, Nat.log2_zero]
    exact pos
  · exact (Nat.log2_lt zero).2 lt

lemma log2_mul_two_pow {m : Nat} (ne : m ≠ 0) (k : Nat) : (m * 2 ^ k).log2 = m.log2 + k := by
  induction k with
  | zero => simp
  | succ k ih =>
    have scaled : m * 2 ^ k ≠ 0 := Nat.mul_ne_zero ne (Nat.ne_of_gt (Nat.two_pow_pos k))
    rw [Nat.pow_succ, ← Nat.mul_assoc, Nat.mul_comm, Nat.log2_two_mul scaled, ih]
    rfl

lemma div_two_pow_lt {m k : Nat} (short : m.log2 ≤ 52 + k) : m / 2 ^ k < 2 ^ 53 := by
  rw [Nat.div_lt_iff_lt_mul (Nat.two_pow_pos k), ← Nat.pow_add]
  exact Nat.lt_of_lt_of_le Nat.lt_log2_self (Nat.pow_le_pow_right (by decide) (by omega))

lemma le_div_two_pow {m k : Nat} (ne : m ≠ 0) (full : m.log2 = 52 + k) :
    2 ^ 52 ≤ m / 2 ^ k := by
  rw [Nat.le_div_iff_mul_le (Nat.two_pow_pos k), ← Nat.pow_add, ← full]
  exact Nat.log2_self_le ne

/-- The exponent for a number whose leading bit stands at a given place. -/
lemma targetExponent_eq (total : Int) :
    Format.binary64.targetExponent total = max (total - 53) (-1074) := rfl

lemma shiftToTargetExponent_exponent (m : Nat) (e : Int) (accuracy : Accuracy) :
    (shiftToTargetExponent Format.binary64 m e accuracy).2 =
      max e (max (m.log2 + e - 52) (-1074)) := by
  simp only [shiftToTargetExponent, shiftToExponent, targetExponent_eq, totalExponent]
  omega

lemma shiftToTargetExponent_mantissa_lt (m : Nat) (e : Int) (accuracy : Accuracy) :
    (shiftToTargetExponent Format.binary64 m e accuracy).1.mantissa < 2 ^ 53 := by
  simp only [shiftToTargetExponent, shiftToExponent, targetExponent_eq, totalExponent,
    mantissa_shiftRight, mantissa_ofMantissaAndAccuracy]
  exact div_two_pow_lt (by omega)

lemma shiftToTargetExponent_exact {m k : Nat} {e : Int} (full : m.log2 = 52 + k)
    (low : -1074 ≤ e + k) :
    shiftToTargetExponent Format.binary64 m e .exact =
      (ExtendedMantissa.mk m false false >>> k, e + k) := by
  have amount : (Format.binary64.targetExponent (totalExponent m e) - e).toNat = k := by
    rw [targetExponent_eq, totalExponent]
    omega
  rw [shiftToTargetExponent, shiftToExponent, amount]
  rfl

end Shifting

/-- Rounding shifts twice: the second time if the rounded significand became too long. -/
lemma roundWithAccuracy_eq {spec : Format} {m r : Nat} {e e₁ e₂ : Int} {accuracy : Accuracy}
    {first second : ExtendedMantissa} (sign : Sign)
    (shift : shiftToTargetExponent spec m e accuracy = (first, e₁))
    (rounded : first.roundedMantissa = r)
    (again : shiftToTargetExponent spec r e₁ .exact = (second, e₂)) :
    roundWithAccuracy spec sign m e accuracy =
      if zero : second.mantissa = 0 then .zero sign
      else .finite sign second.mantissa e₂ (Nat.pos_of_ne_zero zero) := by
  subst rounded
  simp only [roundWithAccuracy, shift, again]

/-- An exact significand of at least 53 bits is rounded to 53 of them.  Rounding up to `2 ^ 53`
costs one more shift, which loses nothing. -/
lemma roundWithAccuracy_exact {m k : Nat} {e : Int} (ne : m ≠ 0) (full : m.log2 = 52 + k)
    (low : -1074 ≤ e + k) (sign : Sign) :
    ∃ (r j : Nat) (pos : 0 < r),
      roundWithAccuracy Format.binary64 sign m e .exact = .finite sign r (e + k + j) pos ∧
        2 ^ 52 ≤ r ∧ r < 2 ^ 53 ∧ r * 2 ^ j = roundedQuotient m k ∧ j ≤ 1 := by
  have lower : 2 ^ 52 ≤ roundedQuotient m k :=
    Nat.le_trans (le_div_two_pow ne full) (le_roundedQuotient m k)
  have upper : roundedQuotient m k ≤ 2 ^ 53 :=
    Nat.le_trans (roundedQuotient_le m k) (div_two_pow_lt (by omega))
  -- The second shift is by one if the rounded significand is `2 ^ 53`, else by none.
  obtain ⟨j, small, logarithm, exact⟩ : ∃ j, j ≤ 1 ∧ (roundedQuotient m k).log2 = 52 + j ∧
      roundedQuotient m k / 2 ^ j * 2 ^ j = roundedQuotient m k := by
    rcases Nat.lt_or_eq_of_le upper with short | carry
    · exact ⟨0, by omega, (Nat.log2_eq_iff (by omega)).2 ⟨lower, short⟩, by simp⟩
    · exact ⟨1, by omega, by rw [carry]; exact Nat.log2_two_pow, by omega⟩
  have fits : 2 ^ 52 ≤ roundedQuotient m k / 2 ^ j := le_div_two_pow (by omega) logarithm
  have short : roundedQuotient m k / 2 ^ j < 2 ^ 53 := div_two_pow_lt (by omega)
  rw [← mantissa_shiftRight ⟨roundedQuotient m k, false, false⟩ j] at fits short exact
  rw [roundWithAccuracy_eq sign (shiftToTargetExponent_exact full low)
    (roundedMantissa_shiftRight m k) (shiftToTargetExponent_exact logarithm (by omega)),
    dif_neg (by omega)]
  exact ⟨_, j, _, rfl, fits, short, exact, small⟩

/-- Whether a number is finite and its exponent not above that of the largest double. -/
def InRange : UnpackedFloat → Prop
  | .zero _ => True
  | .finite _ _ e _ => e ≤ 971
  | _ => False

lemma inRange_roundWithAccuracy {m : Nat} {e : Int} (below : m.log2 + e ≤ 1022) (low : e ≤ 970)
    (sign : Sign) (accuracy : Accuracy) :
    InRange (roundWithAccuracy Format.binary64 sign m e accuracy) := by
  rcases shift : shiftToTargetExponent Format.binary64 m e accuracy with ⟨first, e₁⟩
  rcases again : shiftToTargetExponent Format.binary64 first.roundedMantissa e₁ .exact
    with ⟨second, e₂⟩
  have exponent := shiftToTargetExponent_exponent m e accuracy
  have exponentAgain := shiftToTargetExponent_exponent first.roundedMantissa e₁ .exact
  rw [shift] at exponent
  rw [again] at exponentAgain
  -- What the first shift leaves has 53 bits, so rounding it gives `2 ^ 53` at most.
  have bits : first.mantissa < 2 ^ 53 := by
    simpa only [shift] using shiftToTargetExponent_mantissa_lt m e accuracy
  have rounded := roundedMantissa_le first
  have logarithm : first.roundedMantissa.log2 < 54 := log2_lt_of_lt (by decide) (by omega)
  rw [roundWithAccuracy_eq sign shift rfl again]
  split
  · trivial
  · show e₂ ≤ (971 : Int)
    omega

lemma inRange_round {m : Nat} {e : Int} (ne : m ≠ 0) (below : m.log2 + e ≤ 1022) (low : e ≤ 970)
    (sign : Sign) : InRange (UnpackedFloat.round Format.binary64 sign m e) := by
  rw [UnpackedFloat.round, decreaseExponent]
  apply inRange_roundWithAccuracy
  · rw [Nat.shiftLeft_eq, log2_mul_two_pow ne]
    omega
  · omega

section Packing

/-- An exponent in range is not packed as that of the infinities. -/
lemma ofNat_exponent_ne {e : Int} (high : e ≤ 971) :
    BitVec.ofNat 11 (e + 1075).toNat ≠ -1#11 := by
  intro same
  have value := congrArg BitVec.toNat same
  rw [BitVec.toNat_ofNat, Nat.mod_eq_of_lt (by omega)] at value
  have : (-1#11).toNat = 2047 := rfl
  omega

lemma pack_finite {sign : Sign} {m : Nat} {e : Int} (pos : 0 < m) (high : e ≤ 971) :
    UnpackedFloat.pack Format.binary64 (.finite sign m e pos) =
      packComponents Format.binary64 sign
        (if m.log2 = 52 then BitVec.ofNat 11 (e + 1075).toNat else 0#11) (BitVec.ofNat 52 m) := by
  have biased : (e + Format.binary64.exponentBias + Format.binary64.mantissaBitsWithoutImplicit
      : Int).toNat = (e + 1075).toNat := by
    show (e + 1023 + 52).toNat = (e + 1075).toNat
    omega
  have full : m.log2 + 1 = Format.binary64.mantissaBits ↔ m.log2 = 52 := by
    show m.log2 + 1 = 53 ↔ m.log2 = 52
    omega
  rw [UnpackedFloat.pack]
  simp only [biased, full]
  rw [if_neg (by show ¬2048 ≤ _; omega)]
  split <;> rfl

lemma isFinite_pack {u : UnpackedFloat} (range : InRange u) :
    (Float.Model.pack u).unpack.isFinite = true := by
  cases u with
  | notANumber => exact range.elim
  | infinity => exact range.elim
  | zero sign => cases sign <;> rfl
  | finite sign m e pos =>
    have exponent : (if m.log2 = 52 then BitVec.ofNat 11 (e + 1075).toNat else 0#11) ≠ -1#11 := by
      split
      · exact ofNat_exponent_ne range
      · decide
    show (UnpackedFloat.unpack Format.binary64
      (UnpackedFloat.pack Format.binary64 (.finite sign m e pos))).isFinite = true
    rw [pack_finite pos range, UnpackedFloat.unpack]
    simp only [unpackExponent_packComponents, if_neg exponent]
    split_ifs <;> rfl

/-- A number with a full significand is what its packed form unpacks to. -/
lemma unpack_pack {sign : Sign} {m : Nat} {e : Int} (pos : 0 < m) (full : 2 ^ 52 ≤ m)
    (short : m < 2 ^ 53) (low : -1074 ≤ e) (high : e ≤ 971) :
    (Float.Model.pack (.finite sign m e pos)).unpack = .finite sign m e pos := by
  have logarithm : m.log2 = 52 := (Nat.log2_eq_iff (by omega)).2 ⟨full, short⟩
  have exponent : (BitVec.ofNat 11 (e + 1075).toNat).toNat = (e + 1075).toNat := by
    rw [BitVec.toNat_ofNat, Nat.mod_eq_of_lt (by omega)]
  have nonzero : BitVec.ofNat 11 (e + 1075).toNat ≠ 0#11 := by
    intro same
    rw [same] at exponent
    have : (0#11).toNat = 0 := rfl
    omega
  have significand : (1#1 ++ BitVec.ofNat 52 m).toNat = m := by
    rw [BitVec.toNat_append, ← Nat.shiftLeft_add_eq_or_of_lt (BitVec.ofNat 52 m).isLt,
      Nat.shiftLeft_eq, BitVec.toNat_ofNat]
    show 1 * 2 ^ 52 + m % 2 ^ 52 = m
    omega
  have unbiased : ((e + 1075).toNat - (Format.binary64.exponentBias +
      Format.binary64.mantissaBitsWithoutImplicit) : Int) = e := by
    show ((e + 1075).toNat - (1023 + 52) : Int) = e
    omega
  show UnpackedFloat.unpack Format.binary64
    (UnpackedFloat.pack Format.binary64 (.finite sign m e pos)) = _
  rw [pack_finite pos high, if_pos logarithm, UnpackedFloat.unpack]
  simp only [unpackExponent_packComponents, unpackMantissa_packComponents,
    unpackSign_packComponents, Sign.ofBitVec_toBitVec, if_neg (ofNat_exponent_ne high),
    if_neg nonzero, exponent, significand, unbiased]

end Packing

end Binary64

end Troupe
