import Troupe.Table
import Troupe.Text.Hex

/-!
# Identifiers

Everything a store holds is addressed by 128 opaque bits.  An identifier is written as 32
lower-case hexadecimal digits in groups of 8, 4, 4, 4 and 12 joined by hyphens.  It is read
from that form, from the bare digits, from the hyphenated form in braces, and from the
hyphenated form after `urn:uuid:`; letters may be in either case, and nothing else is an
identifier.
-/

namespace Troupe

/-- An opaque 128-bit identifier. -/
structure Id where
  /-- The 128 bits, first digit most significant. -/
  bits : BitVec 128
deriving DecidableEq

namespace Id

instance : LT Id := ⟨fun a b => a.bits.toNat < b.bits.toNat⟩

instance : DecidableLT Id := fun a b => inferInstanceAs (Decidable (a.bits.toNat < b.bits.toNat))

instance : KeyOrder Id where
  irrefl a := Nat.lt_irrefl a.bits.toNat
  trans {a b c} hab hbc := Nat.lt_trans (m := b.bits.toNat) hab hbc
  trichotomy a b := by
    rcases Nat.lt_trichotomy a.bits.toNat b.bits.toNat with h | h | h
    · exact .inl h
    · refine .inr (.inl ?_)
      obtain ⟨x⟩ := a
      obtain ⟨y⟩ := b
      exact congrArg Id.mk (BitVec.eq_of_toNat_eq h)
    · exact .inr (.inr h)

/-- The identifier with the given number, modulo 2¹²⁸. -/
def ofNat (n : Nat) : Id := ⟨BitVec.ofNat 128 n⟩

/-- The identifier whose bits are all zero. -/
def nil : Id := ofNat 0

instance : Inhabited Id := ⟨nil⟩

/-- The 32 digits of an identifier. -/
def digits (id : Id) : List Char := Hex.digits 32 id.bits.toNat

/-- Cut digits into the five groups, joined by hyphens. -/
def hyphenate (digits : List Char) : List Char :=
  digits.take 8 ++ '-' :: (digits.drop 8).take 4 ++ '-' :: (digits.drop 12).take 4
    ++ '-' :: (digits.drop 16).take 4 ++ '-' :: digits.drop 20

/-- The written form of an identifier. -/
def text (id : Id) : String := String.ofList (hyphenate id.digits)

/-- Read 32 bare digits. -/
def ofBare? (chars : List Char) : Option Id :=
  if chars.length = 32 then (Hex.number? 0 chars).map ofNat else none

/-- Read five groups of digits joined by hyphens. -/
def ofHyphenated? (chars : List Char) : Option Id :=
  if chars.length = 36 ∧ chars[8]? = some '-' ∧ chars[13]? = some '-' ∧ chars[18]? = some '-'
      ∧ chars[23]? = some '-' then
    ofBare? (chars.take 8 ++ (chars.drop 9).take 4 ++ (chars.drop 14).take 4
      ++ (chars.drop 19).take 4 ++ chars.drop 24)
  else none

/-- Read any of the four accepted forms. -/
def ofChars? (chars : List Char) : Option Id :=
  match chars.length with
  | 32 => ofBare? chars
  | 36 => ofHyphenated? chars
  | 38 =>
    if chars.head? = some '{' ∧ chars.getLast? = some '}' then
      ofHyphenated? (chars.drop 1).dropLast
    else none
  | 45 =>
    if (chars.take 9).map Char.toLower = "urn:uuid:".toList then ofHyphenated? (chars.drop 9)
    else none
  | _ => none

/-- Read an identifier from text. -/
def ofText? (text : String) : Option Id := ofChars? text.toList

/-- The sixteen bytes of an identifier, most significant first. -/
def bytes (id : Id) : List UInt8 :=
  (List.range 16).map fun i => UInt8.ofNat (id.bits.toNat / Nat.pow 256 (15 - i))

end Id

end Troupe
