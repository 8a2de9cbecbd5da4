/-!
# The parts of a double

A finite 64-bit float is a sign, a whole significand below 2⁵³ and a power of two.  Working
on these parts gives the operations that the float arithmetic of the language lacks: the
exact remainder and the test for a whole number.
-/

namespace Troupe

/-- A number `± significand · 2 ^ exponent`. -/
structure Binary64 where
  /-- Whether the sign bit is set; a zero has a sign too. -/
  negative : Bool
  /-- The significand. -/
  significand : Nat
  /-- The power of two. -/
  exponent : Int
deriving DecidableEq, Repr

namespace Binary64

/-- The lowest exponent: that of the subnormal numbers. -/
def lowestExponent : Int := -1074

/-- The parts of a finite float.  Numbers of the lowest exponent may have a short
significand; every other one has 53 bits. -/
def ofFloat (x : Float) : Binary64 :=
  let bits := x.toBits.toNat
  let field : Nat := bits / 0x10000000000000 % 0x800
  let fraction : Nat := bits % 0x10000000000000
  if field = 0 then ⟨decide (0x8000000000000000 ≤ bits), fraction, lowestExponent⟩
  else ⟨decide (0x8000000000000000 ≤ bits), fraction + 0x10000000000000, (field : Int) - 1075⟩

/-- The float with given parts, exact when the significand is below 2⁵³ and the number is in
range.  The significand is first shifted left until it has 53 bits or the exponent is the
lowest. -/
def toFloat (parts : Binary64) : Float :=
  let shift := min (53 - (Nat.log2 parts.significand + 1)) (parts.exponent - lowestExponent).toNat
  let significand := parts.significand <<< shift
  let exponent := parts.exponent - shift
  let magnitude :=
    if significand < 0x10000000000000 then significand
    else significand - 0x10000000000000 + (exponent + 1075).toNat * 0x10000000000000
  Float.ofBits (UInt64.ofNat (if parts.negative then magnitude + 0x8000000000000000 else magnitude))

/-- Whether the number has no fractional part. -/
def isWhole (parts : Binary64) : Bool :=
  decide (0 ≤ parts.exponent) || parts.significand % (1 <<< (-parts.exponent).toNat) == 0

/-- The remainder of division toward zero, exact and with the sign of the dividend. -/
def remainder (dividend divisor : Binary64) : Binary64 :=
  let exponent := min dividend.exponent divisor.exponent
  let scaled (parts : Binary64) : Nat := parts.significand <<< (parts.exponent - exponent).toNat
  ⟨dividend.negative, scaled dividend % scaled divisor, exponent⟩

end Binary64

end Troupe
