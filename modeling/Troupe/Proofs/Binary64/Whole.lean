import Troupe.Json.Basic
import Troupe.Proofs.Binary64.Rounding

/-!
# Whole numbers as doubles

A whole number of 64 bits becomes the nearest double, whose value is a whole number again:
`nearest`.  `Stands u n` says that the unpacked double `u` has the value `n`, in its only form
with a full significand; `stands_ofInt` is that the double of `n` stands for `nearest n`.
Doubles that stand for whole numbers compare as these do (`Stands.compare`), and their sums,
differences, products and quotients are finite.

Up to `2 ^ 53` in magnitude `nearest` changes nothing.  Above that it keeps the order, but
neighbours may fall together; a number of at most `2 ^ 63` in magnitude moves by at most 512.
-/

namespace Troupe

namespace Binary64

open Float.Model Float.Model.UnpackedFloat

/-- The nearest number with 53 significant bits, the one with the even significand of two. -/
def nearestNat (n : Nat) : Nat := roundedQuotient n (n.log2 - 52) * 2 ^ (n.log2 - 52)

/-- The value of the double nearest to a whole number. -/
def nearest : Int → Int
  | .ofNat n => nearestNat n
  | .negSucc n => -nearestNat (n + 1)

section Nearest

lemma nearestNat_of_lt {n : Nat} (small : n < 2 ^ 53) : nearestNat n = n := by
  have short : n.log2 < 53 := log2_lt_of_lt (by decide) small
  rw [nearestNat, Nat.sub_eq_zero_of_le (by omega), roundedQuotient_zero, Nat.pow_zero, Nat.mul_one]

lemma nearestNat_le (n : Nat) : nearestNat n ≤ 2 ^ (n.log2 + 1) := by
  by_cases small : n < 2 ^ 53
  · rw [nearestNat_of_lt small]
    exact Nat.le_of_lt Nat.lt_log2_self
  · have long : 53 ≤ n.log2 := (Nat.le_log2 (by omega)).2 (by omega)
    have bits : n / 2 ^ (n.log2 - 52) < 2 ^ 53 := div_two_pow_lt (by omega)
    have rounded := roundedQuotient_le n (n.log2 - 52)
    calc
      nearestNat n ≤ 2 ^ 53 * 2 ^ (n.log2 - 52) := Nat.mul_le_mul_right _ (by omega)
      _ = 2 ^ (n.log2 + 1) := by
        rw [← Nat.pow_add]
        congr 1
        omega

lemma le_nearestNat {n : Nat} (ne : n ≠ 0) : 2 ^ n.log2 ≤ nearestNat n := by
  by_cases small : n < 2 ^ 53
  · rw [nearestNat_of_lt small]
    exact Nat.log2_self_le ne
  · have long : 53 ≤ n.log2 := (Nat.le_log2 ne).2 (by omega)
    have bits : 2 ^ 52 ≤ n / 2 ^ (n.log2 - 52) := le_div_two_pow ne (by omega)
    have rounded := le_roundedQuotient n (n.log2 - 52)
    calc
      2 ^ n.log2 = 2 ^ 52 * 2 ^ (n.log2 - 52) := by
        rw [← Nat.pow_add]
        congr 1
        omega
      _ ≤ nearestNat n := Nat.mul_le_mul_right _ (by omega)

/-- Rounding keeps the order: with equally many bits by the order of quotients, else because
a power of two lies between. -/
lemma nearestNat_mono {m n : Nat} (le : m ≤ n) : nearestNat m ≤ nearestNat n := by
  by_cases zero : m = 0
  · rw [zero, nearestNat_of_lt (by decide)]
    exact Nat.zero_le _
  · have logarithms : m.log2 ≤ n.log2 :=
      (Nat.le_log2 (by omega)).2 (Nat.le_trans (Nat.log2_self_le zero) le)
    rcases Nat.lt_or_eq_of_le logarithms with lt | eq
    · calc
        nearestNat m ≤ 2 ^ (m.log2 + 1) := nearestNat_le m
        _ ≤ 2 ^ n.log2 := Nat.pow_le_pow_right (by decide) lt
        _ ≤ nearestNat n := le_nearestNat (by omega)
    · rw [nearestNat, nearestNat, eq]
      exact Nat.mul_le_mul_right _ (roundedQuotient_mono _ le)

lemma nearestNat_error {n : Nat} (small : n < 2 ^ 63) :
    n ≤ nearestNat n + 512 ∧ nearestNat n ≤ n + 512 := by
  have error := roundedQuotient_error n (n.log2 - 52)
  have unit : 2 ^ (n.log2 - 52) ≤ 2 ^ 10 := by
    have := log2_lt_of_lt (by decide) small
    exact Nat.pow_le_pow_right (by decide) (by omega)
  rw [nearestNat]
  omega

lemma nearest_natCast (n : Nat) : nearest n = nearestNat n := rfl

lemma nearest_neg (a : Int) : nearest (-a) = -nearest a := by
  rcases a with (_ | n) | n
  · decide
  · rfl
  · exact (Int.neg_neg _).symm

lemma nearest_mono {a b : Int} (le : a ≤ b) : nearest a ≤ nearest b := by
  rcases a.eq_nat_or_neg with ⟨m, rfl | rfl⟩ <;> rcases b.eq_nat_or_neg with ⟨n, rfl | rfl⟩ <;>
    simp only [nearest_neg, nearest_natCast]
  · have := nearestNat_mono (show m ≤ n by omega)
    omega
  · have : m = 0 ∧ n = 0 := by omega
    rw [this.1, this.2]
    decide
  · omega
  · have := nearestNat_mono (show n ≤ m by omega)
    omega

lemma nearest_eq_zero {a : Int} : nearest a = 0 ↔ a = 0 := by
  constructor
  · intro zero
    rcases Int.lt_trichotomy a 0 with negative | none | positive
    · have : nearest a ≤ nearest (-1) := nearest_mono (by omega)
      have : nearest (-1) = -1 := by decide
      omega
    · exact none
    · have : nearest 1 ≤ nearest a := nearest_mono (by omega)
      have : nearest 1 = 1 := by decide
      omega
  · rintro rfl
    decide

lemma nearest_of_natAbs_le {a : Int} (small : a.natAbs ≤ 2 ^ 53) : nearest a = a := by
  have exact {n : Nat} (le : n ≤ 2 ^ 53) : nearestNat n = n := by
    rcases Nat.lt_or_eq_of_le le with lt | rfl
    · exact nearestNat_of_lt lt
    · decide
  rcases a.eq_nat_or_neg with ⟨n, rfl | rfl⟩
  · rw [nearest_natCast, exact (by omega)]
  · rw [nearest_neg, nearest_natCast, exact (by omega)]

lemma nearest_error {a : Int} (small : a.natAbs ≤ 2 ^ 63) : (a - nearest a).natAbs ≤ 512 := by
  have error {n : Nat} (le : n ≤ 2 ^ 63) : n ≤ nearestNat n + 512 ∧ nearestNat n ≤ n + 512 := by
    rcases Nat.lt_or_eq_of_le le with lt | rfl
    · exact nearestNat_error lt
    · decide
  rcases a.eq_nat_or_neg with ⟨n, rfl | rfl⟩
  · have := error (n := n) (by omega)
    rw [nearest_natCast]
    omega
  · have := error (n := n) (by omega)
    rw [nearest_neg, nearest_natCast]
    omega

end Nearest

lemma apply_neg (sign : Sign) (n : Int) : (-sign).apply n = -(sign.apply n) := by
  cases sign
  · exact (Int.neg_neg n).symm
  · rfl

lemma natAbs_apply (sign : Sign) (n : Nat) : (sign.apply n).natAbs = n := by
  cases sign
  · exact Int.natAbs_neg _
  · rfl

/-- An unpacked double with a whole value: zero, or a full significand times a power of two. -/
inductive Stands : UnpackedFloat → Int → Prop
  | zero (sign : Sign) : Stands (.zero sign) 0
  | finite {sign : Sign} {m k n : Nat} (pos : 0 < m) (full : 2 ^ 52 ≤ m) (short : m < 2 ^ 53)
      (range : k ≤ 64) (value : m * 2 ^ k = n * 2 ^ 52) :
      Stands (.finite sign m (k - 52) pos) (sign.apply n)

namespace Stands

variable {u v : UnpackedFloat} {a b : Int}

lemma unpack_pack (stands : Stands u a) : (Float.Model.pack u).unpack = u := by
  cases stands with
  | zero sign => cases sign <;> rfl
  | finite pos full short range => exact Binary64.unpack_pack pos full short (by omega) (by omega)

lemma neg (stands : Stands u a) : Stands u.neg (-a) := by
  cases stands with
  | zero sign => exact .zero _
  | @finite sign m k n pos full short range value =>
    rw [← apply_neg]
    exact .finite pos full short range value

/-- Of two numbers with full significands, the one with the larger exponent is larger. -/
lemma lt_of_exponent_lt {m k n m' k' n' : Nat} (short : m < 2 ^ 53)
    (value : m * 2 ^ k = n * 2 ^ 52) (full : 2 ^ 52 ≤ m') (value' : m' * 2 ^ k' = n' * 2 ^ 52)
    (lt : k < k') : n < n' := by
  apply Nat.lt_of_mul_lt_mul_right (a := 2 ^ 52)
  calc
    n * 2 ^ 52 = m * 2 ^ k := value.symm
    _ < 2 ^ 53 * 2 ^ k := Nat.mul_lt_mul_of_pos_right short (Nat.two_pow_pos k)
    _ = 2 ^ 52 * 2 ^ (k + 1) := by rw [Nat.pow_succ]; omega
    _ ≤ m' * 2 ^ k' := Nat.mul_le_mul full (Nat.pow_le_pow_right (by decide) lt)
    _ = n' * 2 ^ 52 := value'

lemma compare_magnitudes {m k n m' k' n' : Nat} (full : 2 ^ 52 ≤ m) (short : m < 2 ^ 53)
    (value : m * 2 ^ k = n * 2 ^ 52) (full' : 2 ^ 52 ≤ m') (short' : m' < 2 ^ 53)
    (value' : m' * 2 ^ k' = n' * 2 ^ 52) :
    (compare (k - 52 : Int) (k' - 52)).then (compare m m') = compare n n' := by
  rcases Nat.lt_trichotomy k k' with lt | rfl | gt
  · rw [Int.compare_eq_lt.2 (show (k - 52 : Int) < k' - 52 by omega),
      Nat.compare_eq_lt.2 (lt_of_exponent_lt short value full' value' lt)]
    rfl
  · have scale : 0 < 2 ^ k := Nat.two_pow_pos k
    rw [Int.compare_eq_eq.2 rfl]
    show compare m m' = compare n n'
    rcases Nat.lt_trichotomy m m' with lt | rfl | gt
    · have scaled : m * 2 ^ k < m' * 2 ^ k := Nat.mul_lt_mul_of_pos_right lt scale
      rw [Nat.compare_eq_lt.2 lt, Nat.compare_eq_lt.2 (by omega)]
    · rw [Nat.compare_eq_eq.2 rfl, Nat.compare_eq_eq.2 (by omega)]
    · have scaled : m' * 2 ^ k < m * 2 ^ k := Nat.mul_lt_mul_of_pos_right gt scale
      rw [Nat.compare_eq_gt.2 gt, Nat.compare_eq_gt.2 (by omega)]
  · rw [Int.compare_eq_gt.2 (show (k' - 52 : Int) < k - 52 by omega),
      Nat.compare_eq_gt.2 (lt_of_exponent_lt short' value' full value gt)]
    rfl

lemma pos_of_value {m k n : Nat} (full : 2 ^ 52 ≤ m) (value : m * 2 ^ k = n * 2 ^ 52) :
    0 < n := by
  have scale : 0 < 2 ^ k := Nat.two_pow_pos k
  have scaled : 2 ^ 52 * 2 ^ k ≤ m * 2 ^ k := Nat.mul_le_mul_right _ full
  omega

lemma compare_natCast (m n : Nat) : compare (m : Int) n = compare m n := by
  rw [Int.compare_eq_ite_lt, Nat.compare_eq_ite_lt]
  simp only [Int.ofNat_lt]

lemma compare_neg (a b : Int) : compare (-a) (-b) = (compare a b).swap := by
  rw [Int.compare_swap, Int.compare_eq_ite_lt, Int.compare_eq_ite_lt]
  simp only [Int.neg_lt_neg_iff]

/-- Doubles that stand for whole numbers compare as these do. -/
protected lemma compare (left : Stands u a) (right : Stands v b) :
    u.compare v = some (compare a b) := by
  cases left with
  | zero sign =>
    cases right with
    | zero sign' => rfl
    | @finite sign' m k n pos full short range value =>
      have := pos_of_value full value
      cases sign' <;> simp only [UnpackedFloat.compare, Sign.apply]
      · rw [Int.compare_eq_gt.2 (by omega)]
      · rw [Int.compare_eq_lt.2 (by omega)]
  | @finite sign m k n pos full short range value =>
    have := pos_of_value full value
    cases right with
    | zero sign' =>
      cases sign <;> simp only [UnpackedFloat.compare, Sign.apply]
      · rw [Int.compare_eq_lt.2 (by omega)]
      · rw [Int.compare_eq_gt.2 (by omega)]
    | @finite sign' m' k' n' pos' full' short' range' value' =>
      have := pos_of_value full' value'
      have magnitudes := compare_magnitudes full short value full' short' value'
      cases sign <;> cases sign' <;> simp only [UnpackedFloat.compare, Sign.apply, magnitudes]
      · rw [compare_neg, compare_natCast]
      · rw [Int.compare_eq_lt.2 (by omega)]
      · rw [Int.compare_eq_gt.2 (by omega)]
      · rw [compare_natCast]

end Stands

section Conversion

/-- A number of at least 53 bits, rounded to so many and put back in its place, is the nearest
such number. -/
lemma roundedQuotient_eq_nearestNat {n i : Nat} (ne : n ≠ 0) (long : 52 ≤ n.log2 + i) :
    roundedQuotient (n * 2 ^ i) (n.log2 + i - 52) * 2 ^ n.log2 = nearestNat n * 2 ^ 52 := by
  rcases Nat.le_total 52 n.log2 with big | small
  · have amount : n.log2 + i - 52 = i + (n.log2 - 52) := by omega
    have place : 2 ^ n.log2 = 2 ^ (n.log2 - 52) * 2 ^ 52 := by
      rw [← Nat.pow_add]
      congr 1
      omega
    rw [amount, roundedQuotient_mul_two_pow, place, nearestNat, Nat.mul_assoc]
  · have scaled : n * 2 ^ i = n * 2 ^ (52 - n.log2) * 2 ^ (n.log2 + i - 52) := by
      rw [Nat.mul_assoc, ← Nat.pow_add]
      congr 2
      omega
    have short : n < 2 ^ 53 := (Nat.log2_lt ne).1 (by omega)
    have exact := roundedQuotient_mul_two_pow (n * 2 ^ (52 - n.log2)) (n.log2 + i - 52) 0
    rw [Nat.add_zero, roundedQuotient_zero] at exact
    rw [scaled, exact, nearestNat_of_lt short, Nat.mul_assoc, ← Nat.pow_add]
    congr 2
    omega

lemma stands_roundWithAccuracy {n i : Nat} (ne : n ≠ 0) (small : n < 2 ^ 64)
    (long : 52 ≤ n.log2 + i) :
    Stands (roundWithAccuracy Format.binary64 .positive (n * 2 ^ i) (-i) .exact)
      (nearestNat n) := by
  have logarithm : n.log2 < 64 := (Nat.log2_lt ne).2 small
  have scaled : n * 2 ^ i ≠ 0 := Nat.mul_ne_zero ne (Nat.ne_of_gt (Nat.two_pow_pos i))
  obtain ⟨r, j, pos, rounds, full, short, value, carry⟩ :=
    roundWithAccuracy_exact (k := n.log2 + i - 52) (e := -i) scaled
      (by rw [log2_mul_two_pow ne]; omega) (by omega) .positive
  have exponent : (-i + (n.log2 + i - 52 : Nat) + j : Int) = (n.log2 + j : Nat) - 52 := by omega
  have place : r * 2 ^ (n.log2 + j) = nearestNat n * 2 ^ 52 := by
    rw [Nat.add_comm, Nat.pow_add, ← Nat.mul_assoc, value, roundedQuotient_eq_nearestNat ne long]
  rw [rounds, exponent]
  exact .finite pos full short (by omega) place

/-- The product with one is rounded to what it was. -/
lemma Stands.mul_one {u : UnpackedFloat} {a : Int} (stands : Stands u a) :
    Stands (UnpackedFloat.mul Format.binary64 u (.finite .positive (2 ^ 52) (-52) (by decide)))
      a := by
  cases stands with
  | zero sign => exact .zero _
  | @finite sign m k n pos full short range value =>
    have logarithm : m.log2 = 52 := (Nat.log2_eq_iff (by omega)).2 ⟨full, short⟩
    have exact := roundedQuotient_mul_two_pow m 52 0
    rw [roundedQuotient_zero] at exact
    obtain ⟨r, j, pos', rounds, full', short', value', carry⟩ :=
      roundWithAccuracy_exact (m := m * 2 ^ 52) (k := 52) (e := k - 52 + -52) (by omega)
        (by rw [log2_mul_two_pow (by omega), logarithm]) (by omega) (sign * .positive)
    have same : sign * Sign.positive = sign := by cases sign <;> rfl
    have whole : j = 0 := by
      rcases Nat.le_one_iff_eq_zero_or_eq_one.1 carry with zero | one
      · exact zero
      · rw [one, exact] at value'
        omega
    subst whole
    rw [exact, Nat.pow_zero, Nat.mul_one] at value'
    subst value'
    rw [UnpackedFloat.mul, rounds, same]
    have exponent : (k - 52 + -52 + (52 : Nat) + (0 : Nat) : Int) = k - 52 := by omega
    rw [exponent]
    exact .finite pos full short range value

/-- A word that fits a significand is shifted to the left, which is exact. -/
lemma ofUInt64_eq {n : Nat} (ne : n ≠ 0) (small : n < 2 ^ 53) :
    UnpackedFloat.ofUInt64 Format.binary64 n.toUInt64 =
      roundWithAccuracy Format.binary64 .positive (n * 2 ^ (52 - n.log2)) (-(52 - n.log2 : Nat))
        .exact := by
  have short : n.log2 < 53 := (Nat.log2_lt ne).2 small
  have target : Format.binary64.targetExponent (totalExponent n 0) = n.log2 - 52 := by
    rw [targetExponent_eq, totalExponent]
    omega
  have amount : (0 - (n.log2 - 52) : Int).toNat = 52 - n.log2 := by omega
  rw [UnpackedFloat.ofUInt64, UnpackedFloat.ofNat, UnpackedFloat.ofInt, UnpackedFloat.normalize,
    Nat.toUInt64_eq, UInt64.toNat_ofNat_of_lt' (by show n < 2 ^ 64; omega),
    Int.compare_eq_gt.2 (by omega)]
  simp only [UnpackedFloat.round, target, decreaseExponent, Int.toNat_natCast]
  rw [amount, Nat.shiftLeft_eq, Int.zero_sub]

lemma unpack_one : (Float.Model.ofBits 0x3FF0000000000000).unpack =
    .finite .positive (2 ^ 52) (-52) (by decide) := rfl

/-- A number that fits a significand is converted through a word, and multiplied by one. -/
lemma ofNat_eq_of_lt {n : Nat} (small : n < 2 ^ 53) :
    Float.ofNat n = .ofModel (.pack (UnpackedFloat.mul Format.binary64
      (Float.Model.pack (UnpackedFloat.ofUInt64 Format.binary64 n.toUInt64)).unpack
      (.finite .positive (2 ^ 52) (-52) (by decide)))) := by
  show Float.ofScientific n false 0 = _
  rw [Float.ofScientific, dif_pos ⟨small, by decide⟩, ← unpack_one]
  rfl

/-- A longer number is rounded, with 53 bits to spare. -/
lemma ofNat_eq_of_le {n : Nat} (large : 2 ^ 53 ≤ n) :
    Float.ofNat n = .ofModel (.pack
      (roundWithAccuracy Format.binary64 .positive (n * 2 ^ 53) (-(53 : Nat)) .exact)) := by
  show Float.ofScientific n false 0 = _
  rw [Float.ofScientific, dif_neg (by omega), ← Nat.shiftLeft_eq]
  show Float.ofModel (.pack (UnpackedFloat.ofScientific Format.binary64 n 0)) = _
  rw [UnpackedFloat.ofScientific, dif_neg (by omega), if_neg (by decide),
    if_neg (by show ¬(0 : Int) < -(2048 + n.log2); omega), if_pos (by decide)]
  show Float.ofModel (.pack (roundWithAccuracy Format.binary64 .positive (n <<< 53 * 1)
    (-(53 : Nat) + 0) .exact)) = _
  rw [Nat.mul_one, Int.add_zero]

lemma stands_ofNat {n : Nat} (small : n < 2 ^ 64) :
    Stands (Float.ofNat n).toModel.unpack (nearestNat n) := by
  by_cases zero : n = 0
  · subst zero
    exact .zero .positive
  · rcases Nat.lt_or_ge n (2 ^ 53) with short | long
    · have word := stands_roundWithAccuracy (i := 52 - n.log2) zero small (by omega)
      have product := word.mul_one
      rw [ofNat_eq_of_lt short, ofUInt64_eq zero short, word.unpack_pack, product.unpack_pack]
      exact product
    · have word := stands_roundWithAccuracy (i := 53) zero small (by omega)
      rw [ofNat_eq_of_le long, word.unpack_pack]
      exact word

/-- The double of a whole number of 64 bits stands for the nearest whole number. -/
lemma stands_ofInt {a : Int} (fits : Number.Fits a) :
    Stands (Float.ofInt a).toModel.unpack (nearest a) := by
  obtain ⟨low, high⟩ := fits
  rcases a with n | n
  · have small : (n : Int) < 0x10000000000000000 := high
    exact stands_ofNat (by omega)
  · have stands := (stands_ofNat (n := n + 1) (by omega)).neg
    show Stands (Float.Model.pack _).unpack _
    rw [stands.unpack_pack]
    exact stands

lemma stands_zero : Stands (0 : Float).toModel.unpack 0 := stands_ofNat (by decide)

end Conversion

section Comparison

variable {x y : Float} {a b : Int}

lemma lt_iff_of_stands (left : Stands x.toModel.unpack a) (right : Stands y.toModel.unpack b) :
    x < y ↔ a < b := by
  show Float.lt x y = true ↔ a < b
  rw [Float.lt, decide_eq_true_iff]
  show UnpackedFloat.lt _ _ = true ↔ a < b
  rw [UnpackedFloat.lt, left.compare right, ← Int.compare_eq_lt, beq_iff_eq, Option.some.injEq]

lemma beq_iff_of_stands (left : Stands x.toModel.unpack a) (right : Stands y.toModel.unpack b) :
    (x == y) = true ↔ a = b := by
  show UnpackedFloat.beq _ _ = true ↔ a = b
  rw [UnpackedFloat.beq, left.compare right, ← Int.compare_eq_eq, beq_iff_eq, Option.some.injEq]

/-- Only zero becomes a zero among the doubles. -/
lemma ofInt_beq_zero {a : Int} (fits : Number.Fits a) : (Float.ofInt a == 0) = decide (a = 0) := by
  rw [Bool.eq_iff_iff, beq_iff_of_stands (stands_ofInt fits) stands_zero, nearest_eq_zero,
    decide_eq_true_iff]

end Comparison

section Finite

variable {u v : UnpackedFloat} {a b : Int}

lemma Stands.inRange (stands : Stands u a) : InRange u := by
  cases stands with
  | zero => trivial
  | finite pos full short range value =>
    show _ ≤ (971 : Int)
    omega

/-- Aligned to a lower exponent, a significand has at most 117 bits. -/
lemma shiftLeft_lt {m k : Nat} {t : Int} (short : m < 2 ^ 53) (range : k ≤ 64)
    (low : -52 ≤ t) : m <<< (k - 52 - t : Int).toNat < 2 ^ 117 := by
  rw [Nat.shiftLeft_eq]
  calc
    m * 2 ^ (k - 52 - t : Int).toNat < 2 ^ 53 * 2 ^ (k - 52 - t : Int).toNat :=
      Nat.mul_lt_mul_of_pos_right short (Nat.two_pow_pos _)
    _ ≤ 2 ^ 53 * 2 ^ 64 :=
      Nat.mul_le_mul_left _ (Nat.pow_le_pow_right (by decide) (by omega))
    _ = 2 ^ 117 := by decide

lemma inRange_normalize {mantissa e : Int} (bound : mantissa.natAbs < 2 ^ 118) (low : e ≤ 12)
    (zeroSign : Sign) : InRange (UnpackedFloat.normalize Format.binary64 mantissa e zeroSign) := by
  rcases Int.lt_trichotomy mantissa 0 with negative | rfl | positive
  · have bits : (-mantissa).toNat.log2 < 118 := log2_lt_of_lt (by decide) (by omega)
    rw [UnpackedFloat.normalize, Int.compare_eq_lt.2 negative]
    exact inRange_round (by omega) (by omega) (by omega) _
  · trivial
  · have bits : mantissa.toNat.log2 < 118 := log2_lt_of_lt (by decide) (by omega)
    rw [UnpackedFloat.normalize, Int.compare_eq_gt.2 positive]
    exact inRange_round (by omega) (by omega) (by omega) _

lemma Stands.inRange_add (left : Stands u a) (right : Stands v b) :
    InRange (UnpackedFloat.add Format.binary64 u v) := by
  cases left with
  | zero sign =>
    cases right with
    | zero sign' => cases sign <;> cases sign' <;> trivial
    | finite pos full short range value => exact (Stands.finite pos full short range value).inRange
  | @finite sign m k n pos full short range value =>
    cases right with
    | zero sign' => exact (Stands.finite pos full short range value).inRange
    | @finite sign' m' k' n' pos' full' short' range' value' =>
      have bound := shiftLeft_lt (t := min (k - 52) (k' - 52)) short range (by omega)
      have bound' := shiftLeft_lt (t := min (k - 52) (k' - 52)) short' range' (by omega)
      apply inRange_normalize _ (by omega)
      refine Nat.lt_of_le_of_lt (Int.natAbs_add_le _ _) ?_
      rw [natAbs_apply, natAbs_apply]
      exact Nat.add_lt_add bound bound'

lemma sub_eq_add_neg (spec : Format) (u v : UnpackedFloat) :
    UnpackedFloat.sub spec u v = UnpackedFloat.add spec u v.neg := by
  cases u <;> cases v <;> try rfl
  simp only [UnpackedFloat.sub, UnpackedFloat.add, UnpackedFloat.neg, apply_neg,
    Int.sub_eq_add_neg]

lemma Stands.inRange_mul (left : Stands u a) (right : Stands v b) :
    InRange (UnpackedFloat.mul Format.binary64 u v) := by
  cases left with
  | zero sign => cases right <;> trivial
  | @finite sign m k n pos full short range value =>
    cases right with
    | zero sign' => trivial
    | @finite sign' m' k' n' pos' full' short' range' value' =>
      have product : m * m' < 2 ^ 106 := calc
        m * m' < 2 ^ 53 * 2 ^ 53 := Nat.mul_lt_mul'' short short'
        _ = 2 ^ 106 := by decide
      have bits : (m * m').log2 < 106 := log2_lt_of_lt (by decide) product
      exact inRange_roundWithAccuracy (by omega) (by omega) _ _

/-- A quotient is finite unless the divisor is zero. -/
lemma Stands.inRange_div (left : Stands u a) (right : Stands v b) (ne : b ≠ 0) :
    InRange (UnpackedFloat.div Format.binary64 u v) := by
  cases right with
  | zero => exact absurd rfl ne
  | @finite sign' m' k' n' pos' full' short' range' value' =>
    cases left with
    | zero => trivial
    | @finite sign m k n pos full short range value =>
      rw [UnpackedFloat.div, divCore]
      generalize target : min (k - 52 - (k' - 52) : Int)
        (Format.binary64.targetExponent
          (totalExponent m (k - 52) - totalExponent m' (k' - 52))) = t
      generalize amount : (k - 52 - (k' - 52) - t : Int).toNat = s
      -- The exponent is lowered by as much as the dividend is shifted to the left, so the
      -- leading bit of the quotient stays below `2 ^ 117`.
      have quotient : m <<< s / m' < 2 ^ (53 + s) := calc
        m <<< s / m' ≤ m * 2 ^ s := by rw [Nat.shiftLeft_eq]; exact Nat.div_le_self _ _
        _ < 2 ^ 53 * 2 ^ s := Nat.mul_lt_mul_of_pos_right short (Nat.two_pow_pos s)
        _ = 2 ^ (53 + s) := (Nat.pow_add 2 53 s).symm
      have bits : (m <<< s / m').log2 < 53 + s := log2_lt_of_lt (by omega) quotient
      exact inRange_roundWithAccuracy (by omega) (by omega) _ _

/-- The doubles of whole numbers have finite sums. -/
lemma isFinite_add {a b : Int} (left : Number.Fits a) (right : Number.Fits b) :
    (Float.ofInt a + Float.ofInt b).isFinite = true :=
  isFinite_pack ((stands_ofInt left).inRange_add (stands_ofInt right))

/-- The doubles of whole numbers have finite differences. -/
lemma isFinite_sub {a b : Int} (left : Number.Fits a) (right : Number.Fits b) :
    (Float.ofInt a - Float.ofInt b).isFinite = true := by
  apply isFinite_pack
  rw [sub_eq_add_neg]
  exact (stands_ofInt left).inRange_add (stands_ofInt right).neg

/-- The doubles of whole numbers have finite products. -/
lemma isFinite_mul {a b : Int} (left : Number.Fits a) (right : Number.Fits b) :
    (Float.ofInt a * Float.ofInt b).isFinite = true :=
  isFinite_pack ((stands_ofInt left).inRange_mul (stands_ofInt right))

/-- The doubles of whole numbers have finite opposites. -/
lemma isFinite_neg {a : Int} (fits : Number.Fits a) : (-Float.ofInt a).isFinite = true :=
  isFinite_pack (stands_ofInt fits).neg.inRange

/-- The doubles of whole numbers have finite quotients, unless the divisor is zero. -/
lemma isFinite_div {a b : Int} (left : Number.Fits a) (right : Number.Fits b) (ne : b ≠ 0) :
    (Float.ofInt a / Float.ofInt b).isFinite = true :=
  isFinite_pack ((stands_ofInt left).inRange_div (stands_ofInt right) (mt nearest_eq_zero.1 ne))

end Finite

end Binary64

end Troupe
