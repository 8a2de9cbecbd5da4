import Troupe.Decimal.Shortest

/-!
# Written forms of a double

A form decides where plain notation ends, whether a whole number keeps `.0`, and which of two
equally near decimals is written.  `Notation.data` is the form in JSON text, and
`Notation.plain` the one in which schema violations quote numbers.
-/

namespace Troupe

/-- How the shortest decimal of a double is written. -/
structure Notation where
  /-- The exponents of the first digit that are written plainly; `none` writes all so. -/
  plainExponents : Option (Int × Int)
  /-- Whether a whole number ends in `.0`. -/
  keepsPoint : Bool
  /-- Which of two equally near decimals is written. -/
  tie : Decimal.Tie

namespace Notation

/-- JSON text: plain from `0.00001` to sixteen digits before the point, and a whole number
keeps its point. -/
def data : Notation := ⟨some (-5, 15), true, .even⟩

/-- Never an exponent and no needless point. -/
def plain : Notation := ⟨none, false, .up⟩

/-- Digits before and after a point; `first` is the exponent of the first digit. -/
def pointed (form : Notation) (digits : List Char) (first : Int) : List Char :=
  if first < 0 then
    '0' :: '.' :: (List.replicate (-first - 1).toNat '0' ++ digits)
  else
    let whole := first.toNat + 1
    let front := digits.take whole ++ List.replicate (whole - digits.length) '0'
    match digits.drop whole with
    | [] => if form.keepsPoint then front ++ ['.', '0'] else front
    | fraction => front ++ '.' :: fraction

/-- One digit before the point, then the exponent with its sign. -/
def scientific (digits : List Char) (first : Int) : List Char :=
  let exponent := 'e' :: (if first < 0 then '-' else '+') :: Nat.toDigits 10 first.natAbs
  match digits with
  | [] => exponent
  | [digit] => digit :: exponent
  | digit :: rest => digit :: '.' :: (rest ++ exponent)

/-- The characters of a positive decimal. -/
def chars (form : Notation) (decimal : Decimal) : List Char :=
  let digits := Nat.toDigits 10 decimal.coefficient
  let first := decimal.exponent + digits.length - 1
  let plainly :=
    match form.plainExponents with
    | none => true
    | some (low, high) => decide (low ≤ first ∧ first ≤ high)
  if plainly then form.pointed digits first else scientific digits first

/-- The text of a finite float. -/
def write (form : Notation) (x : Float) : String :=
  let parts := Binary64.ofFloat x
  let unsigned :=
    if parts.significand = 0 then (if form.keepsPoint then ['0', '.', '0'] else ['0'])
    else form.chars (Decimal.shortest parts form.tie)
  String.ofList (if parts.negative then '-' :: unsigned else unsigned)

end Notation

end Troupe
