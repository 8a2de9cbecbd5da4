/-!
# Hexadecimal digits

Digits are written in lower case and read in either case.
-/

namespace Troupe.Hex

/-- The digit written for a number below sixteen. -/
def digit (n : Nat) : Char :=
  if n < 10 then Char.ofNat ('0'.toNat + n) else Char.ofNat ('a'.toNat + (n - 10))

/-- The value of a digit of either case. -/
def value? (c : Char) : Option Nat :=
  if '0' ≤ c ∧ c ≤ '9' then some (c.toNat - '0'.toNat)
  else if 'a' ≤ c ∧ c ≤ 'f' then some (c.toNat - 'a'.toNat + 10)
  else if 'A' ≤ c ∧ c ≤ 'F' then some (c.toNat - 'A'.toNat + 10)
  else none

/-- The last `count` digits of a number, most significant first. -/
def digits : (count : Nat) → Nat → List Char
  | 0, _ => []
  | count + 1, n => digits count (n / 16) ++ [digit (n % 16)]

/-- The number that a list of digits denotes, read on from a number already seen. -/
def number? (seen : Nat) : List Char → Option Nat
  | [] => some seen
  | c :: rest => (value? c).bind fun v => number? (16 * seen + v) rest

/-- The digits of a byte string, two for each byte. -/
def ofBytes (bytes : List UInt8) : String :=
  String.ofList (bytes.flatMap fun byte => digits 2 byte.toNat)

@[simp] theorem length_digits (count n : Nat) : (digits count n).length = count := by
  induction count generalizing n with
  | zero => rfl
  | succ count ih => simp [digits, ih]

theorem value?_digit {n : Nat} (h : n < 16) : value? (digit n) = some n := by
  revert n
  decide

theorem number?_append (seen : Nat) (left right : List Char) :
    number? seen (left ++ right) = (number? seen left).bind fun n => number? n right := by
  induction left generalizing seen with
  | nil => rfl
  | cons c rest ih =>
    simp only [List.cons_append, number?]
    cases value? c with
    | none => rfl
    | some v => exact ih _

/-- Writing digits and reading them gives the number back, modulo what the digits hold. -/
theorem number?_digits (count n : Nat) : number? 0 (digits count n) = some (n % Nat.pow 16 count) := by
  induction count generalizing n with
  | zero => simp [digits, number?, Nat.mod_one]
  | succ count ih =>
    simp only [digits, number?_append, ih, Option.bind_some, number?,
      value?_digit (Nat.mod_lt n (by decide : 16 > 0))]
    congr 1
    have power : Nat.pow 16 (count + 1) = 16 * Nat.pow 16 count := Nat.mul_comm _ _
    rw [power, Nat.mod_mul]
    omega

end Troupe.Hex
